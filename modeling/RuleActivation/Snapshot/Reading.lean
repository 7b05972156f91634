import RuleActivation.Binary64.Approximation
import RuleActivation.Json.Reader
import RuleActivation.Snapshot.Fault

/-!
# Reading documents by their shape

A document whose shape is known is read token by token, and the first problem on the way ends the
reading, at the place that has been reached. A record is written as an object, whose members may
stand in any order and among which unknown ones are skipped, or as an array of its fields in their
order.

## Main definitions

* `Reader`: reading a part of a document
* `Reader.integer`, `Reader.text`, `Reader.list`, …: readers of parts
* `RecordType.read`: the reader of a record
-/

namespace RuleActivation

open Json (Lexeme Token)
open Text (Place)

/-- Why the reading of a document ends before it is complete. -/
inductive ReadingFault where
  | notJson
  | shape (fault : ShapeFault) (place : Place)

/-- Reading a part of a document from the tokens that are left of it. -/
abbrev Reader (α : Type) := StateT (List Lexeme) (Except ReadingFault) α

namespace Reader

variable {α : Type}

/-! ## Tokens -/

/-- The document is not JSON. -/
def notJson : Reader α := throw .notJson

/-- Something is wrong at a place. -/
def fail (fault : ShapeFault) (place : Place) : Reader α := throw (.shape fault place)

/-- The next token, which is left. -/
def peek : Reader Lexeme := do
  match ← get with
  | [] => notJson
  | t :: _ => return t

/-- The next token. -/
def next : Reader Lexeme := do
  match ← get with
  | [] => notJson
  | t :: rest =>
    set rest
    return t

/-- Takes a token that has to be there. -/
def expect (token : Token) : Reader Unit := do
  if (← next).token = token then return () else notJson

/-- The text of a string. -/
def textOf (pieces : List Json.Piece) : Reader String :=
  match Json.Piece.text? pieces with
  | some s => return s
  | none => notJson

/-! ## Parts -/

/-- The integer of a number token without point and exponent, if it has 64 bits, with or without
a sign. The negative zero is none. -/
def integerOf? (n : Json.Number) : Option Int :=
  n.toInt?.filter fun i =>
    Int64.minValue.toInt ≤ i && i < UInt64.size && !(n.negative && i == 0)

/-- Refuses a value of another type than the wanted one, of which the first token has been taken. A
container is refused before it is entered. -/
def refuse (wanted : String) (t : Lexeme) : Reader α :=
  match t.token with
  | .null => fail (.invalidType .null wanted) t.stop
  | .bool b => fail (.invalidType (.bool b) wanted) t.stop
  | .number n => fail (.invalidType ((integerOf? n).elim .number .integer) wanted) t.stop
  | .string pieces => do fail (.invalidType (.string (← textOf pieces)) wanted) t.stop
  | .openArray => fail (.invalidType .sequence wanted) t.start
  | .openObject => fail (.invalidType .map wanted) t.start
  | _ => notJson

/-- Reads a value whose shape is not known, with a given strictness. -/
def value (mode : Json.Strictness) : Reader Json := do
  match Json.take mode (← get) with
  | .ok (v, rest) =>
    set rest
    return v
  | .error (.numberText t) => refuse "string containing a number" t
  | .error .malformed => notJson

/-- Skips a value. -/
def skip : Reader Unit := do
  let _ ← value .outline

/-- An integer from `low` up to `high`. Another number is read as a binary one before it is
refused. -/
def integer (low high : Int) (wanted : String) : Reader Int := do
  let t ← next
  match t.token with
  | .number n =>
    match integerOf? n with
    | some i =>
      if low ≤ i ∧ i ≤ high then return i else fail (.invalidValue (.integer i) wanted) t.stop
    | none =>
      match Binary64.approximate n with
      | .ok x => fail (.invalidType (.binary n.negative x) wanted) t.stop
      | .error rest => fail .outOfRange (t.stop.back rest.length)
  | _ => refuse wanted t

/-- A text. -/
def text : Reader String := do
  let t ← next
  match t.token with
  | .string pieces => textOf pieces
  | _ => refuse "a string" t

/-- A truth value. -/
def bool : Reader Bool := do
  let t ← next
  match t.token with
  | .bool b => return b
  | _ => refuse "a boolean" t

/-- Something that may be `null`. -/
def optional (part : Reader α) : Reader (Option α) := do
  if (← peek).token = .null then
    let _ ← next
    return none
  else return some (← part)

/-- The items of a list from one of them on, up to the end of the list. There are at most `fuel`
of them; `found` are those before it, the last one first. -/
def itemsFrom (item : Reader α) : (fuel : Nat) → (found : List α) → Reader (List α)
  | 0, _ => notJson
  | fuel + 1, found => do
    let a ← item
    match (← next).token with
    | .comma => itemsFrom item fuel (a :: found)
    | .closeArray => return (a :: found).reverse
    | _ => notJson

/-- A list. Its items are not more than the tokens that are left, since each of them takes one. -/
def list (item : Reader α) : Reader (List α) := do
  let t ← next
  match t.token with
  | .openArray =>
    if (← peek).token = .closeArray then
      let _ ← next
      return []
    else itemsFrom item (← get).length []
  | _ => refuse "a sequence" t

end Reader

/-! ## Records -/

/-- How a record is written. -/
inductive RecordForm where
  | members
  | items
  deriving DecidableEq, Repr

namespace RecordForm

/-- Where a record is refused as a whole: behind its end, if it ends here; otherwise where
something comes that would have to be its end. -/
def place : RecordForm → List Lexeme → Place
  | members, t :: _ => if t.token = .closeObject then t.stop else t.start
  | items, t :: rest =>
    if t.token = .closeArray then t.stop
    else if t.token = .comma then (rest.head?.map Lexeme.start).getD t.stop
    else t.start
  | _, [] => .start

/-- Refuses a record as a whole. -/
def refuse {α : Type} (form : RecordForm) (fault : ShapeFault) : Reader α := do
  Reader.fail fault (form.place (← get))

end RecordForm

/-- A kind of record: its name and the names of its fields. -/
structure RecordType where
  name : String
  fields : List String

namespace RecordType

variable {α σ : Type}

/-- What is wanted where a record of this type is read. -/
def wanted (type : RecordType) : String := "struct " ++ type.name

/-- The value of a field that must not be missing. -/
def need (type : RecordType) (form : RecordForm) (field : String) : Option α → Reader α
  | some a => return a
  | none =>
    match form with
    | .members => form.refuse (.missingField field)
    | .items => form.refuse (.invalidLength (type.fields.idxOf field)
        (type.wanted ++ " with " ++ toString type.fields.length ++ " elements"))

/-- Reads members from one of them on, up to the end of the object, which is left. There are at
most `fuel` of them; `seen` are the keys before it. -/
def membersFrom (type : RecordType) (field : σ → String → Reader σ) :
    (fuel : Nat) → (seen : List String) → σ → Reader σ
  | 0, _, _ => Reader.notJson
  | fuel + 1, seen, state => do
    match (← Reader.next).token with
    | .string pieces =>
      let key ← Reader.textOf pieces
      let state ←
        if type.fields.contains key then
          if seen.contains key then RecordForm.members.refuse (.duplicateField key)
          else do
            Reader.expect .colon
            field state key
        else do
          Reader.expect .colon
          Reader.skip
          pure state
      match (← Reader.peek).token with
      | .comma =>
        Reader.expect .comma
        membersFrom type field fuel (key :: seen) state
      | .closeObject => return state
      | _ => Reader.notJson
    | _ => Reader.notJson

/-- Reads the items of the given fields, as far as they are there. -/
def items (field : σ → String → Reader σ) : (first : Bool) → List String → σ → Reader σ
  | _, [], state => return state
  | first, name :: names, state => do
    if (← Reader.peek).token = .closeArray then return state
    else
      unless first do Reader.expect .comma
      items field false names (← field state name)

/-- Reads a record: every field in the order of the document by `field`, from `start` on, and the
whole by `finish`. -/
def read (type : RecordType) (start : σ) (field : RecordForm → σ → String → Reader σ)
    (finish : RecordForm → σ → Reader α) : Reader α := do
  let t ← Reader.next
  match t.token with
  | .openObject =>
    let state ←
      if (← Reader.peek).token = .closeObject then pure start
      else membersFrom type (field .members) (← get).length [] start
    let record ← finish .members state
    Reader.expect .closeObject
    return record
  | .openArray =>
    let record ← finish .items (← items (field .items) true type.fields start)
    if (← Reader.peek).token = .comma then
      Reader.expect .comma
      let t ← Reader.peek
      match t.token with
      | .closeArray => Reader.notJson
      | .ending => Reader.fail .trailingItems t.start
      | _ => Reader.fail .trailingItems (t.start.advance 1)
    else
      Reader.expect .closeArray
      return record
  | _ => Reader.refuse type.wanted t

end RecordType

end RuleActivation
