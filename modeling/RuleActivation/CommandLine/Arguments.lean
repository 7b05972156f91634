/-!
# Command line arguments

A command line names one of six commands. Options that concern every command may stand before or
after its name; given on both sides, the one after it counts. On one side no option may be given
twice. The value of an option follows it as the next argument, which does not look like an option,
or after an equals sign. Two hyphens end the options.

## Main definitions

* `Command`, `Invocation`: what is asked for
* `Arguments.scan`: the options and words of one side of the command
* `Invocation.parse`: the invocation of a command line, or why it ends before one
-/

namespace RuleActivation.CommandLine

/-! ## Invocations -/

/-- The form of the output. -/
inductive Format where
  | text
  | json
  deriving DecidableEq, Repr

/-- A command with its options. -/
inductive Command where
  | list
  | eval (rule : Option String) (env : String) (trace : Bool)
  | snapshot (out : String) (check : Bool)
  | stats
  | report (out : Option String)
  | validate (file : String)
  deriving DecidableEq, Repr

/-- What a command line asks for. -/
structure Invocation where
  format : Format
  quiet : Bool
  rules : String
  command : Command
  deriving DecidableEq, Repr

/-- Why a command line ends without a command. -/
inductive Stop where
  | usage
  | help
  | version
  deriving DecidableEq, Repr

/-! ## Options -/

/-- What is given by a word or by the value of an option. -/
inductive ValueKind where
  /-- Nothing, since the option has no value. -/
  | flag
  /-- Any text. -/
  | text
  /-- A path, which is not empty. -/
  | path
  /-- The name of an output form. -/
  | format
  deriving DecidableEq, Repr

/-- Whether a value is of a kind. -/
def ValueKind.allows : ValueKind → String → Bool
  | flag, _ => true
  | text, _ => true
  | path, value => value != ""
  | format, value => value == "text" || value == "json"

/-- What may stand on one side of a command's name: options, and words one after the other. -/
structure Side where
  options : List (String × ValueKind)
  words : List ValueKind
  version : Bool
  commands : Bool

/-- The options that concern every command. -/
def globalOptions : List (String × ValueKind) :=
  [("output", .format), ("quiet", .flag), ("rules", .path)]

/-- The names of the commands, with what may follow them. -/
def commandTable : List (String × Side) :=
  [("list", ⟨[], [], false, false⟩),
    ("eval", ⟨[("env", .path), ("trace", .flag)], [.text], false, false⟩),
    ("snapshot", ⟨[("out", .path), ("check", .flag)], [], false, false⟩),
    ("stats", ⟨[], [], false, false⟩),
    ("report", ⟨[("out", .path)], [], false, false⟩),
    ("validate", ⟨[], [.path], false, false⟩)]

/-- What may stand before the name of a command. -/
def rootSide : Side := ⟨[], [], true, true⟩

/-- The options and words of one side. A flag has an empty value. -/
structure Arguments where
  options : List (String × String)
  words : List String
  deriving DecidableEq, Repr

namespace Arguments

/-- No options and no words. -/
def empty : Arguments := ⟨[], []⟩

/-- The value of an option. -/
def get? (a : Arguments) (name : String) : Option String := a.options.lookup name

/-- Whether a flag is given. -/
def has (a : Arguments) (name : String) : Bool := (a.get? name).isSome

/-- Adds an option with its value, unless it is there already or the value is not allowed. -/
def withOption (a : Arguments) (name : String) (kind : ValueKind) (value : String) :
    Except Stop Arguments :=
  if a.has name || !kind.allows value then .error .usage
  else .ok { a with options := a.options ++ [(name, value)] }

/-- Adds a word, unless there are enough or it is not allowed. -/
def withWord (a : Arguments) (side : Side) (word : String) : Except Stop Arguments :=
  match side.words[a.words.length]? with
  | some kind =>
    if kind.allows word then .ok { a with words := a.words ++ [word] } else .error .usage
  | none => .error .usage

/-- The name of an option and the value after its equals sign. -/
def splitEquals : List Char → List Char × Option (List Char)
  | [] => ([], none)
  | c :: cs =>
    if c = '=' then ([], some cs)
    else let (name, value) := splitEquals cs; (c :: name, value)

/-- What a single argument looks like. -/
inductive Look where
  /-- Two hyphens. -/
  | terminator
  /-- A long option, perhaps with its value. -/
  | long (name : String) (value : Option String)
  /-- Short options, of which the first one is given. -/
  | short (letter : Char)
  /-- Anything else, a single hyphen included. -/
  | word
  deriving DecidableEq, Repr

/-- What an argument looks like. -/
def lookOf (arg : String) : Look :=
  match arg.toList with
  | ['-', '-'] => .terminator
  | '-' :: '-' :: long =>
    let (name, value) := splitEquals long
    .long (String.ofList name) (value.map String.ofList)
  | '-' :: letter :: _ => .short letter
  | _ => .word

/-- What short options ask for. -/
def shortOption (side : Side) (letter : Char) : Stop :=
  if letter = 'h' then .help
  else if letter = 'V' ∧ side.version then .version
  else .usage

/-- What a long option that is not in the table asks for. -/
def specialOption (side : Side) (name : String) (value : Option String) : Stop :=
  if value.isSome then .usage
  else if name = "help" then .help
  else if name = "version" ∧ side.version then .version
  else .usage

/-- What a long option leads to: the option that waits for its value, if it does, and the options
and words found. -/
def longOption (side : Side) (found : Arguments) (name : String) (value : Option String) :
    Except Stop (Option (String × ValueKind) × Arguments) :=
  match (globalOptions ++ side.options).lookup name, value with
  | none, _ => .error (specialOption side name value)
  | some .flag, some _ => .error .usage
  | some .flag, none => (found.withOption name .flag "").map (none, ·)
  | some kind, some value => (found.withOption name kind value).map (none, ·)
  | some kind, none => .ok (some (name, kind), found)

/-- The options and words of one side, and the arguments from the name of a command on. The option
`pending` waits for its value. -/
def scan (side : Side) : (pending : Option (String × ValueKind)) → (found : Arguments) →
    List String → Except Stop (Arguments × List String)
  | some _, _, [] => .error .usage
  | none, found, [] => .ok (found, [])
  | some (name, kind), found, value :: rest =>
    if lookOf value = .word then
      match found.withOption name kind value with
      | .ok found => scan side none found rest
      | .error stop => .error stop
    else .error .usage
  | none, found, arg :: rest =>
    match lookOf arg with
    | .terminator => (rest.foldlM (withWord · side) found).map (·, [])
    | .short letter => .error (shortOption side letter)
    | .long name value =>
      match longOption side found name value with
      | .ok (pending, found) => scan side pending found rest
      | .error stop => .error stop
    | .word =>
      if side.commands then .ok (found, arg :: rest)
      else match found.withWord side arg with
        | .ok found => scan side none found rest
        | .error stop => .error stop

end Arguments

/-! ## Command lines -/

/-- The command of a name and of the arguments after it. -/
def commandOf (name : String) (a : Arguments) : Except Stop Command :=
  match name, a.words with
  | "list", _ => .ok .list
  | "eval", words =>
    match a.get? "env" with
    | some env => .ok (.eval words.head? env (a.has "trace"))
    | none => .error .usage
  | "snapshot", _ => .ok (.snapshot ((a.get? "out").getD "rules/cases.json") (a.has "check"))
  | "stats", _ => .ok .stats
  | "report", _ => .ok (.report (a.get? "out"))
  | "validate", [file] => .ok (.validate file)
  | _, _ => .error .usage

/-- Whether the words after `help` name a command. -/
def helpFor : List String → Stop
  | [] => .help
  | [name] => if (commandTable.lookup name).isSome || name == "help" then .help else .usage
  | _ => .usage

/-- The invocation of a command line. An option after the name of the command counts before the one
in front of it. -/
def Invocation.parse (args : List String) : Except Stop Invocation := do
  let (before, rest) ← Arguments.scan rootSide none .empty args
  match rest with
  | [] => .error .usage
  | name :: rest =>
    match commandTable.lookup name with
    | none => .error (if name = "help" then helpFor rest else .usage)
    | some side =>
      let (after, _) ← Arguments.scan side none .empty rest
      let command ← commandOf name after
      let option (name : String) : Option String := (after.get? name).or (before.get? name)
      return {
        format := if option "output" = some "json" then .json else .text
        quiet := (option "quiet").isSome
        rules := (option "rules").getD "rules/corpus.json"
        command }

end RuleActivation.CommandLine
