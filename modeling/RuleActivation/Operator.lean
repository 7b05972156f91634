import RuleActivation.Value.Basic

/-!
# Operators

A condition compares the value of a variable with a literal by one of five operators. Each
operator has the literals it can be used with and, for each literal, the kinds of values that it
compares with it. Values of other kinds are not compared at all.

## Main definitions

* `Operator`: the operators, their names and their other spellings
* `Operator.fault?`: why a literal cannot be used with an operator
* `Operator.comparableKinds`, `Operator.compares`: the kinds that are compared with a literal
* `Operator.holds`: the comparison
-/

namespace RuleActivation

/-! ## Names -/

/-- A comparison between a value and a literal. -/
inductive Operator where
  | equals
  | contains
  | greaterThan
  | lessOrEqual
  | inList
  deriving DecidableEq, Repr

namespace Operator

/-- The name of an operator. -/
def name : Operator → String
  | equals => "equals"
  | contains => "contains"
  | greaterThan => "greater_than"
  | lessOrEqual => "less_or_equal"
  | inList => "in_list"

/-- The operators and the spellings they are known by. -/
def spellings : List (String × Operator) :=
  [("equals", equals), ("==", equals), ("contains", contains), ("greater_than", greaterThan),
    (">", greaterThan), ("less_or_equal", lessOrEqual), ("<=", lessOrEqual), ("in_list", inList),
    ("in", inList)]

/-- The operator of a name or another spelling. -/
def ofName? (spelling : String) : Option Operator := spellings.lookup spelling

@[simp] theorem ofName?_name (op : Operator) : ofName? op.name = some op := by
  cases op <;> rfl

/-! ## Literals -/

/-- Why a literal cannot be used with an operator. -/
inductive LiteralFault where
  /-- There is no literal. -/
  | absent (op : Operator) (literal : Value)
  /-- A list to be equal to has an absent item. -/
  | absentItem
  /-- A list to be in has an item that is no scalar. -/
  | itemKind (kind : Kind)
  /-- The literal has a kind that the operator is not defined for. -/
  | undefined (op : Operator) (kind : Kind)
  deriving Repr

/-- The kinds of literals that an operator is defined for, as text. -/
def literalKinds : Operator → String
  | equals => "boolean, number, string or list"
  | contains => "boolean, number or string"
  | greaterThan | lessOrEqual => "number"
  | inList => "list"

/-- The text of a fault. -/
def LiteralFault.message : LiteralFault → String
  | absent op literal => op.name ++ " requires a value, got " ++ literal.display
  | absentItem => "equals list literal must not contain null"
  | itemKind kind => "in_list elements must be boolean, number or string, found " ++ kind.name
  | undefined op kind =>
    op.name ++ " is not defined for a " ++ kind.name ++ " literal (accepts " ++ op.literalKinds ++
      ")"

/-- Why a literal cannot be used with an operator, if it cannot. -/
def fault? : Operator → Value → Option LiteralFault
  | op, .absent reason => some (.absent op (.absent reason))
  | equals, .list items => if items.any Value.isAbsent then some .absentItem else none
  | equals, _ => none
  | inList, .list items =>
    (items.find? fun item => !item.isScalar).map fun item => .itemKind item.kind
  | contains, literal =>
    if literal.isScalar then none else some (.undefined contains literal.kind)
  | greaterThan, .number _ => none
  | lessOrEqual, .number _ => none
  | op, literal => some (.undefined op literal.kind)

/-! ## Comparison -/

/-- The kinds of values that an operator compares with a literal. -/
def comparableKinds : Operator → Value → List Kind
  | equals, .absent _ => []
  | equals, literal => [literal.kind]
  | contains, .text _ => [.string, .list]
  | contains, .bool _ | contains, .number _ => [.list]
  | contains, _ => []
  | greaterThan, _ | lessOrEqual, _ => [.number]
  | inList, _ => [.boolean, .number, .string]

/-- Whether an operator compares a value with a literal. -/
def compares (op : Operator) (value literal : Value) : Bool :=
  (op.comparableKinds literal).contains value.kind

/-- Whether a text occurs inside another. -/
def occurs (needle : List Char) : List Char → Bool
  | [] => needle.isEmpty
  | c :: cs => needle.isPrefixOf (c :: cs) || occurs needle cs

/-- Whether a comparison holds. Values that are not compared fail. -/
def holds : Operator → (value literal : Value) → Bool
  | equals, value, literal => value == literal
  | contains, .text haystack, .text needle => occurs needle.toList haystack.toList
  | contains, .list items, needle => items.contains needle
  | greaterThan, .number value, .number literal => literal.lt value
  | lessOrEqual, .number value, .number literal => !literal.lt value
  | inList, value, .list items => items.contains value
  | _, _, _ => false

end Operator

end RuleActivation
