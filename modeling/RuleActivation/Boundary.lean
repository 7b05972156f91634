import RuleActivation.Rule.Node

/-!
# Boundary values

For every condition there may be a value that satisfies it, and a value of the same kind that
does not. Both lie as close to the literal as the operator allows. Where there is no such value,
the reason is given.

## Main definitions

* `BoundaryFault`: why there is no boundary value
* `Operator.satisfying`, `Condition.satisfying`: a value that satisfies a condition
* `Operator.negative`, `Condition.negative`: a value that does not
* `Value.outside`: a value outside a list
-/

namespace RuleActivation

/-- Why there is no boundary value. -/
inductive BoundaryFault where
  | noGreater (n : Decimal)
  | noDistinct (n : Decimal)
  | emptyText
  | emptyList
  | emptyListKind
  | bothBooleans
  | largestListed
  | itemKind (kind : Kind)
  | noSatisfying (op : Operator) (kind : Kind)
  | noNegative (op : Operator) (kind : Kind)

/-- The text of a fault. -/
def BoundaryFault.message : BoundaryFault → String
  | noGreater n => "no number greater than " ++ n.text
  | noDistinct n => "no number distinct from " ++ n.text
  | emptyText => "every string contains the empty string"
  | emptyList => "in_list over an empty list is never satisfied"
  | emptyListKind => "in_list over an empty list has no kind to negate"
  | bothBooleans => "in_list covers both booleans; no value lies outside it"
  | largestListed => "in_list reaches the largest number"
  | itemKind kind => "in_list element of kind " ++ kind.name ++ " cannot be negated"
  | noSatisfying op kind =>
    op.name ++ " has no satisfying value for a " ++ kind.name ++ " literal"
  | noNegative op kind => op.name ++ " has no negative value for a " ++ kind.name ++ " literal"

/-- A number as a value, or a fault. -/
def BoundaryFault.orNumber (fault : BoundaryFault) : Option Decimal → Except BoundaryFault Value
  | some n => .ok (.number n)
  | none => .error fault

/-! ## Values outside a list -/

namespace Value

/-- The number of a value. -/
def asNumber? : Value → Option Decimal
  | number n => some n
  | _ => none

/-- The text of a value. -/
def asText? : Value → Option String
  | text s => some s
  | _ => none

/-- The longest of `first` and the texts of a list; of equally long texts the last one. -/
def longest (first : String) (rest : List String) : String :=
  rest.foldl (fun best s => if s.length < best.length then best else s) first

/-- A truth value, if possible `false`, that a list of values does not have. -/
def unlistedBool? (items : List Value) : Option Bool :=
  if items.contains (bool false) then
    if items.contains (bool true) then none else some true
  else some false

/-- A value of the kind of the first item that is equal to no item: a truth value that is not
listed, one more than the largest number, or more than the longest text. -/
def outside : List Value → Except BoundaryFault Value
  | [] => .error .emptyListKind
  | bool b :: rest =>
    match unlistedBool? (bool b :: rest) with
    | some c => .ok (bool c)
    | none => .error .bothBooleans
  | number n :: rest =>
    BoundaryFault.largestListed.orNumber ((n.maximum (rest.filterMap asNumber?)).addInt? 1)
  | text s :: rest => .ok (text (longest s (rest.filterMap asText?) ++ "~"))
  | item :: _ => .error (.itemKind item.kind)

end Value

/-! ## Boundary values of a comparison -/

namespace Operator

/-- A value for which a comparison with the literal holds. -/
def satisfying : Operator → (literal : Value) → Except BoundaryFault Value
  | equals, literal => .ok literal
  | greaterThan, .number n => (BoundaryFault.noGreater n).orNumber (n.addInt? 1)
  | lessOrEqual, .number n => .ok (.number n)
  | contains, .text s => .ok (.text s)
  | contains, needle => .ok (.list [needle])
  | inList, .list [] => .error .emptyList
  | inList, .list (item :: _) => .ok item
  | op, literal => .error (.noSatisfying op literal.kind)

/-- A value of a satisfying value's kind for which a comparison with the literal fails. -/
def negative : Operator → (literal : Value) → Except BoundaryFault Value
  | equals, .bool b => .ok (.bool (!b))
  | equals, .number n =>
    (BoundaryFault.noDistinct n).orNumber ((n.addInt? 1).or (n.addInt? (-1)))
  | equals, .text s => .ok (.text (s ++ "~"))
  | equals, .list items => .ok (.list (items ++ [.bool false]))
  | greaterThan, .number n => .ok (.number n)
  | lessOrEqual, .number n => (BoundaryFault.noGreater n).orNumber (n.addInt? 1)
  | contains, .text s => if s = "" then .error .emptyText else .ok (.text "")
  | contains, _ => .ok (.list [])
  | inList, .list items => Value.outside items
  | op, literal => .error (.noNegative op literal.kind)

end Operator

/-! ## Boundary values of a condition -/

namespace Condition

/-- A value that satisfies a condition. -/
def satisfying (c : Condition) : Except BoundaryFault Value := c.operator.satisfying c.literal

/-- A value of a satisfying value's kind that does not satisfy a condition. -/
def negative (c : Condition) : Except BoundaryFault Value := c.operator.negative c.literal

end Condition

end RuleActivation
