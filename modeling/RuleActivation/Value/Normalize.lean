import RuleActivation.Value.Basic
import RuleActivation.Decimal.Reading
import RuleActivation.Json.Basic

/-!
# Values and JSON

Every JSON value stands for a value: `null`, objects and numbers that no decimal holds stand for
the absence of one. Written back, a number has the digits of its reduced decimal, and every
absence is `null`.

## Main definitions

* `Value.ofJson`, `Value.ofJson?`: the value of a variable that is given, or perhaps not given
* `Value.toJson`: the JSON value of a value
-/

namespace RuleActivation.Value

mutual

/-- The value that a JSON value stands for. -/
def ofJson : Json → Value
  | .null => absent .null
  | .bool b => bool b
  | .number n => (Decimal.ofNumber? n).elim (absent .unrepresentable) number
  | .string s => text s
  | .array items => list (ofJsonItems items)
  | .object _ => absent .unrepresentable

/-- The values that the items of an array stand for. -/
def ofJsonItems : List Json → List Value
  | [] => []
  | v :: vs => ofJson v :: ofJsonItems vs

end

/-- The value of a variable that may not be given. -/
def ofJson? (given : Option Json) : Value := given.elim (absent .missing) ofJson

mutual

/-- The JSON value of a value. -/
def toJson : Value → Json
  | bool b => .bool b
  | number d => .number d.reduced.toNumber
  | text s => .string s
  | list items => .array (toJsonItems items)
  | absent _ => .null

/-- The JSON values of the items of a list. -/
def toJsonItems : List Value → List Json
  | [] => []
  | v :: vs => v.toJson :: toJsonItems vs

end

end RuleActivation.Value
