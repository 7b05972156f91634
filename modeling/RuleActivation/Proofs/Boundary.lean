import RuleActivation.Boundary
import RuleActivation.Proofs.Operator

/-!
# What boundary values look like

The values that satisfy or fail a comparison are scalars, lists of at most one scalar, the literal
itself, or the literal with one more item.

## Main results

* `Operator.satisfying_shape`, `Operator.negative_shape`: the forms of boundary values
* `Condition.isRecordable_of_boundary`: they are recordable if the literal is
-/

namespace RuleActivation

theorem BoundaryFault.isScalar_of_orNumber {fault : BoundaryFault} {d : Option Decimal} {v : Value}
    (h : fault.orNumber d = .ok v) : v.isScalar = true := by
  cases d with
  | none => cases h
  | some d =>
    cases h
    rfl

theorem Value.isScalar_of_outside {items : List Value} {v : Value} (h : outside items = .ok v) :
    v.isScalar = true := by
  unfold outside at h
  split at h
  · cases h
  · split at h
    · cases h
      rfl
    · cases h
  · exact BoundaryFault.isScalar_of_orNumber h
  · cases h
    rfl
  · cases h

namespace Operator

variable {op : Operator} {literal v : Value}

/-- A satisfying value is the literal, a scalar, or a list of one scalar. -/
theorem satisfying_shape (usable : op.fault? literal = none) (h : op.satisfying literal = .ok v) :
    v = literal ∧ op = equals ∨ v.isScalar = true ∨
      ∃ item, item.isScalar = true ∧ v = .list [item] := by
  unfold satisfying at h
  split at h
  -- the cases are the operators with the kinds of their literals, in the order of the definition
  · cases h
    exact .inl ⟨rfl, rfl⟩
  · exact .inr (.inl (BoundaryFault.isScalar_of_orNumber h))
  · cases h
    exact .inr (.inl rfl)
  · cases h
    exact .inr (.inl rfl)
  · cases h
    exact .inr (.inr ⟨_, isScalar_of_contains_usable usable, rfl⟩)
  · cases h
  · cases h
    exact .inr (.inl (isScalar_of_mem_of_usable usable List.mem_cons_self))
  · cases h

/-- A value that fails is a scalar, the empty list, or the literal with one more item. -/
theorem negative_shape (h : op.negative literal = .ok v) :
    v.isScalar = true ∨ v = .list [] ∨
      ∃ items, literal = .list items ∧ v = .list (items ++ [.bool false]) := by
  unfold negative at h
  split at h
  · cases h
    exact .inl rfl
  · exact .inl (BoundaryFault.isScalar_of_orNumber h)
  · cases h
    exact .inl rfl
  · cases h
    exact .inr (.inr ⟨_, rfl, rfl⟩)
  · cases h
    exact .inl rfl
  · exact .inl (BoundaryFault.isScalar_of_orNumber h)
  · split at h
    · cases h
    · cases h
      exact .inl rfl
  · cases h
    exact .inr (.inl rfl)
  · exact .inl (Value.isScalar_of_outside h)
  · cases h

end Operator

namespace Condition

variable {c : Condition} {v : Value}

/-- The boundary values of a condition are recordable if its literal is. -/
theorem isRecordable_of_boundary (literal : c.literal.isRecordable = true)
    (h : c.satisfying = .ok v ∨ c.negative = .ok v) : v.isRecordable = true := by
  rcases h with satisfying | negative
  · obtain ⟨rfl, -⟩ | scalar | ⟨item, scalar, rfl⟩ := Operator.satisfying_shape c.usable satisfying
    · exact literal
    · exact Value.isRecordable_of_isScalar scalar
    · simp [Value.isRecordable, Value.areRecordable, Value.isRecordable_of_isScalar scalar]
  · obtain scalar | rfl | ⟨items, same, rfl⟩ := Operator.negative_shape negative
    · exact Value.isRecordable_of_isScalar scalar
    · rfl
    · rw [same, Value.isRecordable, Value.areRecordable_iff] at literal
      refine Value.areRecordable_iff.2 fun item mem => ?_
      rcases List.mem_append.1 mem with old | new
      · exact literal item old
      · rw [List.mem_singleton.1 new]
        rfl

end Condition

end RuleActivation
