import RuleActivation.Decimal.Basic
import RuleActivation.Text.Quoted

/-!
# Values

The values that rules compare: truth values, exact numbers, texts and lists, and the absence of a
value. No kind of value is ever taken for another.

## Main definitions

* `Absence`: why there is no value
* `Kind`: the kinds of values
* `Value`: values, with `==` comparing numbers by their size
* `Value.display`: the text that shows a value
-/

namespace RuleActivation

/-! ## Kinds -/

/-- Why a variable has no usable value. -/
inductive Absence where
  /-- The variable is not given. -/
  | missing
  /-- The variable is given as `null`. -/
  | null
  /-- The variable is given as something that is no value. -/
  | unrepresentable
  deriving DecidableEq, Repr

/-- The kind of a value. -/
inductive Kind where
  | boolean
  | number
  | string
  | list
  | absent
  deriving DecidableEq, Repr

/-- The name of a kind. -/
def Kind.name : Kind → String
  | boolean => "boolean"
  | number => "number"
  | string => "string"
  | list => "list"
  | absent => "absent"

/-- The name of a reason for absence. -/
def Absence.name : Absence → String
  | missing => "missing"
  | null => "null"
  | unrepresentable => "unrepresentable"

/-- The text that shows a reason for absence. -/
def Absence.display : Absence → String
  | missing => "<missing>"
  | null => "null"
  | unrepresentable => "<unrepresentable>"

/-! ## Values -/

/-- A value of a variable or of a literal. -/
inductive Value where
  | bool (b : Bool)
  | number (d : Decimal)
  | text (s : String)
  | list (items : List Value)
  | absent (reason : Absence)
  deriving Inhabited, Repr

namespace Value

/-- The kind of a value. -/
def kind : Value → Kind
  | bool _ => .boolean
  | number _ => .number
  | text _ => .string
  | list _ => .list
  | absent _ => .absent

/-- Whether there is no value. -/
def isAbsent : Value → Bool
  | absent _ => true
  | _ => false

/-- Whether a value is a truth value, a number or a text. -/
def isScalar : Value → Bool
  | bool _ | number _ | text _ => true
  | _ => false

/-! ## Equality -/

mutual

/-- Equality of values; numbers are compared by their size. -/
def same : Value → Value → Bool
  | bool a, bool b => a == b
  | number a, number b => a == b
  | text a, text b => a == b
  | list as, list bs => sameItems as bs
  | absent a, absent b => a == b
  | _, _ => false

/-- Equality of lists of values. -/
def sameItems : List Value → List Value → Bool
  | [], [] => true
  | a :: as, b :: bs => a.same b && sameItems as bs
  | _, _ => false

end

instance : BEq Value := ⟨same⟩

/-! ## Display -/

mutual

/-- The text that shows a value. -/
def display : Value → String
  | bool true => "true"
  | bool false => "false"
  | number d => d.text
  | text s => Text.quoted s
  | list items => "[" ++ ", ".intercalate (displayItems items) ++ "]"
  | absent reason => reason.display

/-- The texts that show the items of a list. -/
def displayItems : List Value → List String
  | [] => []
  | v :: vs => v.display :: displayItems vs

end

end Value

end RuleActivation
