import RuleActivation.Proofs.Value.Plain

/-!
# Literals that can be used

What an operator demands of its literals. Only a literal to be equal to can be a list that holds
another list.

## Main results

* `Operator.isAbsent_of_usable`: a literal is there
* `Operator.isScalar_of_mem_of_usable`: a list to be in holds scalars
* `Operator.isRecordable_of_usable`: the literals of all operators but one are recordable
-/

namespace RuleActivation

theorem Value.isRecordable_of_isScalar {v : Value} (h : v.isScalar = true) :
    v.isRecordable = true := by
  cases v <;> first | rfl | cases h

namespace Operator

variable {op : Operator} {literal : Value}

/-- A literal is there. -/
theorem isAbsent_of_usable (h : op.fault? literal = none) : literal.isAbsent = false := by
  cases literal with
  | absent reason => cases op <;> cases h
  | _ => rfl

/-- A list to be in holds scalars. -/
theorem isScalar_of_mem_of_usable {items : List Value} {item : Value}
    (h : inList.fault? (.list items) = none) (mem : item ∈ items) : item.isScalar = true := by
  have none := Option.map_eq_none_iff.1 h
  simpa using List.find?_eq_none.1 none item mem

/-- A literal to be contained is a scalar. -/
theorem isScalar_of_contains_usable (h : contains.fault? literal = none) :
    literal.isScalar = true := by
  cases literal <;> first | rfl | cases h

/-- A literal to be compared with by size is a number. -/
theorem exists_number_of_usable (order : op = greaterThan ∨ op = lessOrEqual)
    (h : op.fault? literal = none) : ∃ d, literal = .number d := by
  cases literal with
  | number d => exact ⟨d, rfl⟩
  | _ => rcases order with rfl | rfl <;> cases h

/-- The absences inside of a literal are all `null`, unless it is one to be equal to. -/
theorem isRecordable_of_usable (other : op ≠ equals) (h : op.fault? literal = none) :
    literal.isRecordable = true := by
  cases op with
  | equals => exact absurd rfl other
  | contains => exact Value.isRecordable_of_isScalar (isScalar_of_contains_usable h)
  | greaterThan | lessOrEqual =>
    obtain ⟨d, rfl⟩ := exists_number_of_usable (by simp) h
    rfl
  | inList =>
    cases literal with
    | list items =>
      exact Value.areRecordable_iff.2 fun item mem =>
        Value.isRecordable_of_isScalar (isScalar_of_mem_of_usable h mem)
    | absent reason => cases h
    | _ => rfl

end Operator

end RuleActivation
