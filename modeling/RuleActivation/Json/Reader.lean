import RuleActivation.Json.Basic
import RuleActivation.Json.Token

/-!
# Reading JSON

The tokens of a text build its value on a stack of open containers. A value can be read with all
its rules, or just to find its end. By the rules, arrays and objects are open inside each other
only to a certain depth, every string is a text, and an object that begins with the key for
numbers has no other member and stands for the number that its text spells.

## Main definitions

* `Json.Build`: the containers that are open, and what may come next
* `Json.Build.step`: one token
* `Json.Fault`: why tokens build no value
* `Json.take`: the value at the start of a sequence of tokens
* `Json.read?`: the value of a text, members in the order of the text
* `Json.parse?`: the canonical value of a text
-/

namespace RuleActivation.Json

/-- The number of containers that may be open at once. -/
def depthLimit : Nat := 127

/-- The key of an object that stands for a number. -/
def numberKey : String := "$serde_json::private::Number"

/-- How strictly a value is read. -/
inductive Strictness where
  /-- By all rules, with at most `depth` containers open at once. -/
  | full (depth : Nat)
  /-- The tokens have to fit together, and that is all. -/
  | outline
  deriving DecidableEq, Repr

namespace Strictness

/-- Whether one more container may be opened. -/
def admits : Strictness → (opened : Nat) → Bool
  | full depth, opened => opened < depth
  | outline, _ => true

/-- The text of a string; in an outline its characters do not matter. -/
def text? : Strictness → List Piece → Option String
  | full _, pieces => Piece.text? pieces
  | outline, _ => some ""

end Strictness

/-- Why tokens build no value. -/
inductive Fault where
  /-- They do not fit together. -/
  | malformed
  /-- An object stands for a number, but something else than a string is found in it. -/
  | numberText (found : Lexeme)
  deriving DecidableEq, Repr

/-- An open container that waits for a value: the items or members before it, the last one
first, and the key of an awaited member. -/
inductive Frame where
  | array (items : List Json)
  | object (members : List (String × Json)) (key : String)

/-- The state of the builder: what may come next inside the open containers `around`. Items and
members of the innermost container are listed from the last one backwards. -/
inductive Build where
  /-- A value. -/
  | value (around : List Frame)
  /-- The first item of an array, or its end. -/
  | firstItem (around : List Frame)
  /-- A comma and an item, or the end of the array. -/
  | nextItem (items : List Json) (around : List Frame)
  /-- The first key of an object, or its end. -/
  | firstMember (around : List Frame)
  /-- A comma and a key, or the end of the object. -/
  | nextMember (members : List (String × Json)) (around : List Frame)
  /-- A key. -/
  | memberKey (members : List (String × Json)) (around : List Frame)
  /-- The colon after a key. -/
  | colon (members : List (String × Json)) (key : String) (around : List Frame)
  /-- Nothing: the value is complete. -/
  | complete (value : Json)

namespace Build

/-- A value is complete. -/
def supply (v : Json) : List Frame → Build
  | [] => complete v
  | .array items :: around => nextItem (v :: items) around
  | .object members key :: around => nextMember ((key, v) :: members) around

/-- The value of an object with the given members. -/
def objectOf? : List (String × Json) → Option Json
  | [] => some (.object [])
  | (key, v) :: rest =>
    if key = numberKey then
      match v, rest with
      | .string s, [] => (Number.ofChars? s.toList).map .number
      | _, _ => none
    else some (.object ((key, v) :: rest))

/-- A container opens, unless too many are open. -/
def enter (mode : Strictness) (around : List Frame) (next : Build) : Option Build :=
  if mode.admits around.length then some next else none

/-- The first token of a value. -/
def begin (mode : Strictness) (around : List Frame) : Token → Option Build
  | .null => some (supply .null around)
  | .bool b => some (supply (.bool b) around)
  | .number n => some (supply (.number n) around)
  | .string pieces => (mode.text? pieces).map fun s => supply (.string s) around
  | .openArray => enter mode around (firstItem around)
  | .openObject => enter mode around (firstMember around)
  | _ => none

/-- One token. -/
def step (mode : Strictness) : Build → Token → Option Build
  | value around, token => begin mode around token
  | firstItem around, .closeArray => some (supply (.array []) around)
  | firstItem around, token => begin mode (.array [] :: around) token
  | nextItem items around, .comma => some (value (.array items :: around))
  | nextItem items around, .closeArray => some (supply (.array items.reverse) around)
  | firstMember around, .closeObject => some (supply (.object []) around)
  | firstMember around, .string pieces => (mode.text? pieces).map (colon [] · around)
  | nextMember members around, .comma => some (memberKey members around)
  | nextMember members around, .closeObject =>
    (objectOf? members.reverse).map (supply · around)
  | memberKey members around, .string pieces => (mode.text? pieces).map (colon members · around)
  | colon members key around, .colon => some (value (.object members key :: around))
  | _, _ => none

/-- Whether the text of a number has to come next. -/
def awaitsNumberText : Build → Bool
  | value (.object [] key :: _) => key == numberKey
  | _ => false

/-- The value that is complete after some of the given tokens, and the tokens after those. -/
def run (mode : Strictness) : Build → List Lexeme → Except Fault (Json × List Lexeme)
  | complete v, rest => .ok (v, rest)
  | _, [] => .error .malformed
  | state, t :: rest =>
    if state.awaitsNumberText && !t.token.isString then .error (.numberText t)
    else match step mode state t.token with
      | some next => run mode next rest
      | none => .error .malformed

end Build

/-- The value at the start of a sequence of tokens, and the tokens after it. -/
def take (mode : Strictness) (tokens : List Lexeme) : Except Fault (Json × List Lexeme) :=
  Build.run mode (.value []) tokens

/-- Whether nothing but the end of a text is left. -/
def isEnd : List Lexeme → Bool
  | [t] => t.token == .ending
  | _ => false

/-- The value of a text, members in the order of the text. -/
def read? (text : String) : Option Json :=
  match take (.full depthLimit) (scan text) with
  | .ok (v, rest) => if isEnd rest then some v else none
  | .error _ => none

/-- The canonical value of a text. -/
def parse? (text : String) : Option Json := (read? text).map canonical

end RuleActivation.Json
