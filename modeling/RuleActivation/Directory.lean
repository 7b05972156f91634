/-!
# Directories

A directory holds files under paths. A file is a text, or it is something that is not a text.
Folders are there as far as files are below them. A path is followed step by step, and one can only
go on from a folder. Paths can also lead out of the directory, where there is nothing but a few
empty folders and a sink.

## Main definitions

* `FileFault`: why a file cannot be read or written
* `Directory`: the files under their paths
* `Directory.locate`: where a path leads
* `Directory.read`, `Directory.write`: the text at a path
-/

namespace RuleActivation

/-- Why a file cannot be read or written. -/
inductive FileFault where
  | notFound
  | isFolder
  | notFolder
  | nameTooLong
  | notText
  | other (message : String)
  deriving DecidableEq, Repr

/-- The text of a fault. -/
def FileFault.message : FileFault → String
  | notFound => "No such file or directory (os error 2)"
  | isFolder => "Is a directory (os error 21)"
  | notFolder => "Not a directory (os error 20)"
  | nameTooLong => "File name too long (os error 36)"
  | notText => "stream did not contain valid UTF-8"
  | other message => message

/-- Reading the text at a path. -/
abbrev FileReader := String → Except FileFault String

/-- The content of a file: a text, unless it is none. -/
abbrev Content := Option String

/-- The files of a directory, each under the names that lead to it. -/
structure Directory where
  files : List (List String × Content)
  deriving DecidableEq, Repr

namespace Directory

/-- The directory without files. -/
def empty : Directory := ⟨[]⟩

instance : EmptyCollection Directory := ⟨empty⟩

instance : Inhabited Directory := ⟨∅⟩

/-! ## Paths -/

/-- The number of bytes that a path must not reach. -/
def pathLimit : Nat := 4096

/-- The number of bytes that a name must not exceed. -/
def nameLimit : Nat := 255

/-- The steps of a path: its parts between slashes. -/
def steps (path : String) : List String :=
  (path.toList.splitOn '/').map String.ofList |>.filter (· != "")

/-- Whether a path asks for a folder. -/
def asksForFolder (path : String) : Bool := path.toList.getLast? == some '/'

/-- The place that encloses all others. -/
def root : List String := ["/"]

/-- The folders outside of the directory that paths from the root can lead to. -/
def outerFolders : List (List String) := [root, root ++ ["dev"], root ++ ["tmp"]]

/-- The place of an empty file that stays empty, whatever is written to it. -/
def sink : List String := root ++ ["dev", "null"]

/-- The place above another one. Above the directory there is nothing but the way up. -/
def above (place : List String) : List String :=
  if place = root then root
  else if place.all (· == "..") then place ++ [".."]
  else place.dropLast

/-- Whether a place is a folder. -/
def isFolder (d : Directory) (place : List String) : Bool :=
  outerFolders.contains place || place.all (· == "..") ||
    d.files.any fun (other, _) => place.isPrefixOf other && place != other

/-- The content of the file at a place, if there is a file. -/
def content? (d : Directory) (place : List String) : Option Content :=
  if place = sink then some (some "") else d.files.lookup place

/-- Whether a place is a file. -/
def isFile (d : Directory) (place : List String) : Bool := (d.content? place).isSome

/-- Enters a place, which has to be a folder. -/
def enter (d : Directory) (place : List String) : Except FileFault Unit :=
  if d.isFolder place then .ok ()
  else .error (if d.isFile place then .notFolder else .notFound)

/-- The place that steps lead to, one after the other. One can only go on, up or down, from a
folder. -/
def walk (d : Directory) (here : List String) : List String → Except FileFault (List String)
  | [] => .ok here
  | name :: rest => do
    d.enter here
    if name = "." then walk d here rest
    else if name = ".." then walk d (above here) rest
    else if nameLimit < name.utf8ByteSize then .error .nameTooLong
    else walk d (here ++ [name]) rest

/-- The place that some steps of a path lead to from its beginning. -/
def follow (d : Directory) (path : String) (steps : List String) :
    Except FileFault (List String) :=
  if pathLimit ≤ path.utf8ByteSize then .error .nameTooLong
  else if path = "" then .error .notFound
  else d.walk (if path.toList.head? = some '/' then root else []) steps

/-- The place that a path leads to. -/
def locate (d : Directory) (path : String) : Except FileFault (List String) :=
  d.follow path (steps path)

/-! ## Files -/

/-- The text at a path. -/
def read (d : Directory) (path : String) : Except FileFault String := do
  let place ← d.locate path
  match d.content? place with
  | some content =>
    if asksForFolder path then .error .notFolder
    else content.elim (.error .notText) .ok
  | none => .error (if d.isFolder place then .isFolder else .notFound)

/-- The directory with a content at a place. -/
def put (d : Directory) (place : List String) (content : Content) : Directory :=
  if place = sink then d
  else if d.isFile place then
    ⟨d.files.map fun (other, old) => (other, if other = place then content else old)⟩
  else ⟨d.files ++ [(place, content)]⟩

/-- The directory of a list of files under their paths. -/
def ofList (files : List (String × Content)) : Directory :=
  files.foldl (fun d (path, content) => d.put ((steps path).filter (· != ".")) content) ∅

/-- The directory after a text has been written to a path. No file is made under a path that asks
for a folder, whatever its last step is. -/
def write (d : Directory) (path : String) (text : String) : Except FileFault Directory := do
  if asksForFolder path then
    d.enter (← d.follow path (steps path).dropLast)
    .error .isFolder
  else
    let place ← d.locate path
    if d.isFolder place then .error .isFolder else .ok (d.put place (some text))

end Directory

end RuleActivation
