import RuleActivation.Proofs.Boundary.Outcome
import RuleActivation.Proofs.Rule.Spelling

/-!
# Comparisons that can hold

The kinds that an operator compares with a literal are asked for first, and the comparison is only
made if the value has one of them. With a literal that can be used, no comparison is lost this way:
it holds for values of these kinds only. With another literal it can also hold for other values.

## Main results

* `Operator.comparableKinds_ne_nil`: some kind is compared
* `Operator.compares_of_holds`: a comparison holds for values that are compared only
* `Operator.comparison_by_kind`: the outcomes match where the comparison holds
-/

namespace RuleActivation

namespace Operator

variable {op : Operator} {value literal : Value}

/-! ## Kinds -/

/-- There is a kind that an operator compares with a literal. -/
theorem comparableKinds_ne_nil (usable : op.fault? literal = none) :
    op.comparableKinds literal ≠ [] := by
  cases op with
  | equals =>
    apply List.ne_nil_of_mem
    exact kind_mem_comparableKinds_equals (isAbsent_of_usable usable)
  | contains =>
    apply List.ne_nil_of_mem
    exact list_mem_comparableKinds_contains (isScalar_of_contains_usable usable)
  | greaterThan | lessOrEqual | inList => exact List.cons_ne_nil _ _

/-! ## One operator after the other -/

theorem compares_of_equals_holds (usable : equals.fault? literal = none)
    (h : equals.holds value literal = true) : equals.compares value literal = true := by
  have sameKind : value.kind = literal.kind := Value.kind_congr h
  rw [compares_iff, sameKind]
  exact kind_mem_comparableKinds_equals (isAbsent_of_usable usable)

theorem compares_of_contains_holds (usable : contains.fault? literal = none)
    (h : contains.holds value literal = true) : contains.compares value literal = true := by
  rw [compares_iff]
  cases value with
  | text haystack =>
    cases literal with
    | text needle => exact List.mem_cons_self
    | _ => cases h
  | list items => exact list_mem_comparableKinds_contains (isScalar_of_contains_usable usable)
  | _ => cases literal <;> cases h

/-- What is compared by size is a number. -/
theorem compares_of_order_holds (order : op = greaterThan ∨ op = lessOrEqual)
    (h : op.holds value literal = true) : op.compares value literal = true := by
  rw [compares_iff]
  cases value with
  | number d => rcases order with rfl | rfl <;> exact List.mem_singleton_self _
  | _ => rcases order with rfl | rfl <;> cases h

theorem compares_of_inList_holds (usable : inList.fault? literal = none)
    (h : inList.holds value literal = true) : inList.compares value literal = true := by
  cases literal with
  | list items =>
    rw [holds, List.contains_eq_any_beq, List.any_eq_true] at h
    obtain ⟨item, mem, equal⟩ := h
    have scalar : value.isScalar = true := by
      rw [Value.isScalar_congr equal]
      exact isScalar_of_mem_of_usable usable mem
    rw [compares_iff]
    exact kind_mem_comparableKinds_inList scalar
  | _ => cases h

/-! ## All operators -/

/-- A comparison with a literal that can be used holds for values that are compared only. -/
theorem compares_of_holds (usable : op.fault? literal = none) (h : op.holds value literal = true) :
    op.compares value literal = true := by
  cases op with
  | equals => exact compares_of_equals_holds usable h
  | contains => exact compares_of_contains_holds usable h
  | greaterThan => exact compares_of_order_holds (.inl rfl) h
  | lessOrEqual => exact compares_of_order_holds (.inr rfl) h
  | inList => exact compares_of_inList_holds usable h

/-- Without the check of the literal, a list is found in a list that it is not compared with. -/
example : inList.holds (.list []) (.list [.list []]) = true ∧
    inList.compares (.list []) (.list [.list []]) = false := by
  decide +kernel

theorem outcome_eq_matched_iff_holds (usable : op.fault? literal = none) :
    op.outcome value literal = .matched ↔ op.holds value literal = true := by
  rw [outcome_eq_matched_iff]
  exact ⟨And.right, fun h => ⟨compares_of_holds usable h, h⟩⟩

/-- With a literal that can be used, some kinds of values are compared, and absence is none of them.
Values for which the comparison holds are compared, so that the outcome is a match for all of them
and a mismatch for none, and the comparison fails for all values of other kinds. -/
theorem comparison_by_kind (usable : op.fault? literal = none) :
    op.comparableKinds literal ≠ [] ∧ Kind.absent ∉ op.comparableKinds literal ∧
    ∀ value,
      (op.holds value literal = true → op.compares value literal = true) ∧
      (op.outcome value literal = .matched ↔ op.holds value literal = true) ∧
      (op.outcome value literal = .mismatch → op.holds value literal = false) ∧
      (value.kind ∉ op.comparableKinds literal → op.holds value literal = false) := by
  refine ⟨comparableKinds_ne_nil usable, absent_notMem_comparableKinds op literal, fun value => ?_⟩
  refine ⟨compares_of_holds usable, outcome_eq_matched_iff_holds usable, ?_, ?_⟩
  · intro mismatch
    rw [Bool.eq_false_iff]
    intro h
    rw [← outcome_eq_matched_iff_holds usable, mismatch] at h
    cases h
  · intro other
    rw [Bool.eq_false_iff]
    exact fun h => other (compares_iff.1 (compares_of_holds usable h))

/-- A number is not equal to a truth value, a list is not in a list, and a text does not contain a
number, while a list of numbers does. -/
theorem comparison_by_kind_apart :
    equals.holds (.number .zero) (.bool false) = false ∧
    inList.holds (.list []) (.list [.number .zero, .text "a"]) = false ∧
    contains.holds (.text "0") (.number .zero) = false ∧
    contains.compares (.list [.number .zero]) (.number .zero) = true :=
  ⟨((@comparison_by_kind equals (.bool false) rfl).2.2 (.number .zero)).2.2.2 (by decide),
    ((@comparison_by_kind inList (.list [.number .zero, .text "a"]) rfl).2.2 (.list [])).2.2.2
      (by decide),
    ((@comparison_by_kind contains (.number .zero) rfl).2.2 (.text "0")).2.2.2 (by decide),
    ((@comparison_by_kind contains (.number .zero) rfl).2.2 (.list [.number .zero])).1 rfl⟩

end Operator

end RuleActivation
