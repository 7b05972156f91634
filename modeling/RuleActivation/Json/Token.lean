import RuleActivation.Json.Number
import RuleActivation.Text.Place

/-!
# JSON tokens

A JSON text is a sequence of tokens with blanks between them. The scanner walks over the text one
character at a time. It collects the letters of a word (a literal or a number) up to the first
character that cannot belong to one, and the pieces of a string up to its closing quote. It stops
at the first character that no token can have; the tokens before it are good all the same.

## Main definitions

* `Json.Piece`: the pieces of a string, and the text they stand for
* `Json.Token`, `Json.Lexeme`: tokens, and tokens with their places
* `Json.Scan.step`: one character of the text
* `Json.scan`: the tokens of a text
-/

namespace RuleActivation.Json

open Text (Place)

/-! ## Strings -/

/-- A piece of a string: a character, or a code unit that an escape sequence gives by its
number. -/
inductive Piece where
  | char (c : Char)
  | unit (n : Nat)
  deriving DecidableEq, Repr

namespace Piece

/-- Whether a code unit is the first half of a surrogate pair. -/
def isHigh (unit : Nat) : Bool := 0xD800 ≤ unit && unit ≤ 0xDBFF

/-- Whether a code unit is the second half of a surrogate pair. -/
def isLow (unit : Nat) : Bool := 0xDC00 ≤ unit && unit ≤ 0xDFFF

/-- The character of a surrogate pair. -/
def paired (high low : Nat) : Char :=
  Char.ofNat (0x10000 + (high - 0xD800) * 0x400 + (low - 0xDC00))

/-- The characters that pieces stand for, after those of `seen`, the last one first. Half of a
surrogate pair stands for nothing without the other half. -/
def charsFrom? (seen : List Char) : List Piece → Option (List Char)
  | [] => some seen.reverse
  | .char c :: rest => charsFrom? (c :: seen) rest
  | .unit high :: .unit low :: rest =>
    if isHigh high then
      if isLow low then charsFrom? (paired high low :: seen) rest else none
    else if isLow high then none
    else charsFrom? (Char.ofNat high :: seen) (.unit low :: rest)
  | .unit n :: rest =>
    if isHigh n || isLow n then none else charsFrom? (Char.ofNat n :: seen) rest

/-- The text that pieces stand for. -/
def text? (pieces : List Piece) : Option String := (charsFrom? [] pieces).map String.ofList

end Piece

namespace Escape

/-- The value of a hexadecimal digit. -/
def hexDigit? (c : Char) : Option Nat :=
  if '0' ≤ c ∧ c ≤ '9' then some (c.toNat - 48)
  else if 'a' ≤ c ∧ c ≤ 'f' then some (c.toNat - 87)
  else if 'A' ≤ c ∧ c ≤ 'F' then some (c.toNat - 55)
  else none

/-- The character of a one-letter escape sequence. -/
def letter? : Char → Option Char
  | '"' => some '"'
  | '\\' => some '\\'
  | '/' => some '/'
  | 'b' => some '\x08'
  | 'f' => some '\x0c'
  | 'n' => some '\n'
  | 'r' => some '\r'
  | 't' => some '\t'
  | _ => none

end Escape

/-! ## Tokens -/

/-- A token of a JSON text. -/
inductive Token where
  | openArray
  | closeArray
  | openObject
  | closeObject
  | comma
  | colon
  | null
  | bool (b : Bool)
  | number (n : Number)
  | string (pieces : List Piece)
  /-- The end of the text. -/
  | ending
  /-- Something that is no token. -/
  | bad
  deriving DecidableEq, Repr

/-- Whether a token is a string. -/
def Token.isString : Token → Bool
  | string _ => true
  | _ => false

/-- A token with the places where it begins and where it has ended. -/
structure Lexeme where
  token : Token
  start : Place
  stop : Place
  deriving DecidableEq, Repr

/-! ## The scanner -/

/-- Where the scanner stands. A token that is not complete is given by the place where it begins
and by its letters or pieces, from the last one backwards. -/
inductive Scan where
  | between
  | word (start : Place) (letters : List Char)
  | text (start : Place) (pieces : List Piece)
  /-- After a backslash. -/
  | escape (start : Place) (pieces : List Piece)
  /-- After some hexadecimal digits of a code unit. -/
  | unit (start : Place) (pieces : List Piece) (digits value : Nat)
  /-- Behind something that is no token. -/
  | stopped
  deriving DecidableEq, Repr

namespace Scan

/-- Whether a character separates tokens. -/
def isBlank (c : Char) : Bool := c = ' ' || c = '\t' || c = '\n' || c = '\r'

/-- Whether a character belongs to a literal or a number. -/
def isWord (c : Char) : Bool := c.isAlphanum || c = '-' || c = '+' || c = '.'

/-- The token of a single character. -/
def mark? : Char → Option Token
  | '[' => some .openArray
  | ']' => some .closeArray
  | '\x7b' => some .openObject
  | '\x7d' => some .closeObject
  | ',' => some .comma
  | ':' => some .colon
  | _ => none

/-- The token at the start of a word, and the letters after it. -/
def leading? : List Char → Option (Token × List Char)
  | 'n' :: 'u' :: 'l' :: 'l' :: rest => some (.null, rest)
  | 't' :: 'r' :: 'u' :: 'e' :: rest => some (.bool true, rest)
  | 'f' :: 'a' :: 'l' :: 's' :: 'e' :: rest => some (.bool false, rest)
  | letters => (Number.leading? letters).map fun (n, rest) => (.number n, rest)

/-- The scanner stops: what begins at a place is no token. -/
def stop (place : Place) : List Lexeme × Scan := ([⟨.bad, place, place⟩], stopped)

/-- The tokens of a word, whose letters are bytes, and where it leads. -/
def finishWord (start : Place) (letters : List Char) : List Lexeme × Scan :=
  match leading? letters with
  | none => stop start
  | some (token, rest) =>
    let place := start.advance (letters.length - rest.length)
    if rest.isEmpty then ([⟨token, start, place⟩], between)
    else
      let (tokens, next) := stop place
      (⟨token, start, place⟩ :: tokens, next)

/-- A character between tokens: the tokens it completes and where it leads. -/
def begin (place : Place) (c : Char) : List Lexeme × Scan :=
  if isBlank c then ([], between)
  else if isWord c then ([], word place [c])
  else if c = '"' then ([], text place [])
  else match mark? c with
    | some token => ([⟨token, place, place.next c⟩], between)
    | none => stop place

/-- One character at its place: the tokens it completes and where it leads. The character after a
word is read once more, between tokens. -/
def step : Scan → Place → Char → List Lexeme × Scan
  | between, place, c => begin place c
  | word start letters, place, c =>
    if isWord c then ([], word start (c :: letters))
    else match finishWord start letters.reverse with
      | (tokens, between) =>
        let (more, next) := begin place c
        (tokens ++ more, next)
      | halted => halted
  | text start pieces, place, c =>
    if c = '"' then ([⟨.string pieces.reverse, start, place.next c⟩], between)
    else if c = '\\' then ([], escape start pieces)
    else if c < ' ' then stop start
    else ([], text start (.char c :: pieces))
  | escape start pieces, _, c =>
    if c = 'u' then ([], unit start pieces 0 0)
    else match Escape.letter? c with
      | some d => ([], text start (.char d :: pieces))
      | none => stop start
  | unit start pieces digits value, _, c =>
    match Escape.hexDigit? c with
    | none => stop start
    | some d =>
      if digits = 3 then ([], text start (.unit (16 * value + d) :: pieces))
      else ([], unit start pieces (digits + 1) (16 * value + d))
  | stopped, _, _ => ([], stopped)

/-- The tokens at the end of the text. -/
def finish : Scan → Place → List Lexeme
  | between, place => [⟨.ending, place, place⟩]
  | word start letters, place =>
    match finishWord start letters.reverse with
    | (tokens, between) => tokens ++ [⟨.ending, place, place⟩]
    | (tokens, _) => tokens
  | stopped, _ => []
  | text start _, _ | escape start _, _ | unit start _ _ _, _ => [⟨.bad, start, start⟩]

/-- The tokens of a text from a scanner state and a place on; `found` are those before it, the last
one first. -/
def run (found : List Lexeme) : Scan → Place → List Char → List Lexeme
  | scan, place, [] => found.reverse ++ finish scan place
  | scan, place, c :: cs =>
    let (tokens, next) := step scan place c
    run (tokens.reverse ++ found) next (place.next c) cs

end Scan

/-- The tokens of a text. The last one is its end, or something that is no token. -/
def scan (text : String) : List Lexeme := Scan.run [] .between .start text.toList

end RuleActivation.Json
