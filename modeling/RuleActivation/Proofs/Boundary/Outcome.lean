import RuleActivation.Proofs.Boundary
import RuleActivation.Proofs.Decimal.Addition
import RuleActivation.Proofs.Evaluation.Outcome

/-!
# What boundary values do

A satisfying value matches the literal, and without one no value matches. A negative value is
compared with the literal and does not match it. Both have to be larger or longer than something in
most cases, so that they cannot be equal to it.

## Main results

* `Operator.outcome_satisfying`, `Operator.outcome_ne_matched_of_satisfying`: satisfying values
* `Value.contains_outside`: values outside a list
* `Operator.outcome_negative`: negative values
-/

namespace RuleActivation

/-! ## The best of several -/

/-- Keeping the better of two, element by element, finds one that is as good as all the others. -/
theorem le_foldl_best {α β : Type} [LinearOrder β] (f : α → β) (worse : α → α → Prop)
    [DecidableRel worse] (iff : ∀ a b, worse a b ↔ f a < f b) {first x : α} {rest : List α}
    (mem : x ∈ first :: rest) :
    f x ≤ f (rest.foldl (fun best y => if worse y best then best else y) first) := by
  induction rest generalizing first x with
  | nil => rw [List.mem_singleton.1 mem, List.foldl_nil]
  | cons y rest ih =>
    rw [List.foldl_cons]
    have step : f first ≤ f (if worse y first then first else y) ∧
        f y ≤ f (if worse y first then first else y) := by
      split
      · rename_i less
        exact ⟨le_refl _, ((iff _ _).1 less).le⟩
      · rename_i more
        exact ⟨not_lt.1 (mt (iff _ _).2 more), le_refl _⟩
    rcases List.mem_cons.1 mem with rfl | mem
    · exact step.1.trans (ih List.mem_cons_self)
    · rcases List.mem_cons.1 mem with rfl | mem
      · exact step.2.trans (ih List.mem_cons_self)
      · exact ih (List.mem_cons_of_mem _ mem)

theorem Decimal.toRat_le_maximum {d first : Decimal} {rest : List Decimal}
    (mem : d ∈ first :: rest) : d.toRat ≤ (maximum first rest).toRat :=
  le_foldl_best toRat (fun a b => a.lt b = true) (fun _ _ => lt_iff_toRat_lt) mem

theorem Value.length_le_longest {s first : String} {rest : List String}
    (mem : s ∈ first :: rest) : s.length ≤ (longest first rest).length :=
  le_foldl_best String.length (fun a b => a.length < b.length) (fun _ _ => Iff.rfl) mem

theorem BoundaryFault.orNumber_eq_ok_iff {fault : BoundaryFault} {n : Option Decimal} {v : Value} :
    fault.orNumber n = .ok v ↔ ∃ d, n = some d ∧ v = .number d := by
  cases n with
  | none => simp [orNumber]
  | some d => simp [orNumber, eq_comm]

/-! ## Values outside a list -/

namespace Value

theorem contains_eq_false_iff {items : List Value} {v : Value} :
    items.contains v = false ↔ ∀ item ∈ items, (v == item) = false := by
  rw [List.contains_eq_any_beq, List.any_eq_false]
  simp

theorem contains_unlistedBool {items : List Value} {b : Bool}
    (h : unlistedBool? items = some b) : items.contains (.bool b) = false := by
  unfold unlistedBool? at h
  split at h
  · split at h
    · cases h
    · rename_i missing
      cases h
      exact Bool.eq_false_iff.2 missing
  · rename_i missing
    cases h
    exact Bool.eq_false_iff.2 missing

/-- A value outside a list is equal to none of its items. -/
theorem contains_outside {items : List Value} {v : Value} (h : outside items = .ok v) :
    items.contains v = false := by
  unfold outside at h
  split at h
  · cases h
  · split at h
    · rename_i c unlisted
      cases h
      exact contains_unlistedBool unlisted
    · cases h
  · rename_i n rest
    obtain ⟨r, more, rfl⟩ := BoundaryFault.orNumber_eq_ok_iff.1 h
    rw [contains_eq_false_iff]
    intro item mem
    cases item with
    | number d =>
      have listed : d ∈ (number n :: rest).filterMap asNumber? :=
        List.mem_filterMap.2 ⟨_, mem, rfl⟩
      have larger := (Decimal.toRat_le_maximum listed).trans_lt (Decimal.lt_of_addInt?_one more)
      exact Bool.eq_false_iff.2 fun equal => larger.ne' (Decimal.beq_iff_toRat_eq.1 equal)
    | _ => rfl
  · rename_i s rest
    cases h
    rw [contains_eq_false_iff]
    intro item mem
    cases item with
    | text t =>
      have listed : t ∈ (text s :: rest).filterMap asText? :=
        List.mem_filterMap.2 ⟨_, mem, rfl⟩
      have longer := length_le_longest listed
      refine Bool.eq_false_iff.2 fun equal => ?_
      have same : longest s (rest.filterMap asText?) ++ "~" = t := eq_of_beq equal
      rw [← same, String.length_append] at longer
      exact absurd longer (by simp)
    | _ => rfl
  · cases h

end Value

/-! ## Satisfying values -/

namespace Operator

variable {op : Operator} {literal v : Value}

theorem kind_mem_comparableKinds_equals (given : literal.isAbsent = false) :
    literal.kind ∈ equals.comparableKinds literal := by
  cases literal with
  | absent reason => cases given
  | _ => simp [comparableKinds]

theorem list_mem_comparableKinds_contains (scalar : literal.isScalar = true) :
    Kind.list ∈ contains.comparableKinds literal := by
  cases literal with
  | bool _ | number _ | text _ => simp [comparableKinds]
  | list _ | absent _ => cases scalar

theorem kind_mem_comparableKinds_inList (scalar : v.isScalar = true) :
    v.kind ∈ inList.comparableKinds literal := by
  cases v with
  | bool _ | number _ | text _ => simp [comparableKinds, Value.kind]
  | list _ | absent _ => cases scalar

theorem occurs_self (s : List Char) : occurs s s = true := by
  cases s with
  | nil => rfl
  | cons c s =>
    rw [occurs, Bool.or_eq_true]
    exact .inl (List.isPrefixOf_iff_prefix.2 List.prefix_rfl)

/-- A satisfying value matches the literal. -/
theorem outcome_satisfying (usable : op.fault? literal = none)
    (h : op.satisfying literal = .ok v) : op.outcome v literal = .matched := by
  rw [outcome_eq_matched_iff, compares_iff]
  unfold satisfying at h
  split at h
  -- the cases are the operators with the kinds of their literals, in the order of the definition
  · cases h
    exact ⟨kind_mem_comparableKinds_equals (isAbsent_of_usable usable), Value.beq_refl _⟩
  · obtain ⟨r, more, rfl⟩ := BoundaryFault.orNumber_eq_ok_iff.1 h
    refine ⟨List.mem_singleton_self _, ?_⟩
    exact Decimal.lt_iff_toRat_lt.2 (Decimal.lt_of_addInt?_one more)
  · cases h
    refine ⟨List.mem_singleton_self _, ?_⟩
    rw [holds, Bool.not_eq_true', Bool.eq_false_iff]
    exact fun less => lt_irrefl _ (Decimal.lt_iff_toRat_lt.1 less)
  · cases h
    exact ⟨List.mem_cons_self, occurs_self _⟩
  · cases h
    have scalar := isScalar_of_contains_usable usable
    exact ⟨list_mem_comparableKinds_contains scalar, by simp [holds]⟩
  · cases h
  · cases h
    have scalar := isScalar_of_mem_of_usable usable List.mem_cons_self
    exact ⟨kind_mem_comparableKinds_inList scalar, by simp [holds]⟩
  · cases h

/-- Without a satisfying value no value matches the literal. -/
theorem outcome_ne_matched_of_satisfying {fault : BoundaryFault}
    (h : op.satisfying literal = .error fault) (v : Value) : op.outcome v literal ≠ .matched := by
  intro matched
  obtain ⟨-, holds⟩ := outcome_eq_matched_iff.1 matched
  cases op with
  | equals => cases h
  | contains => cases literal <;> cases h
  | greaterThan =>
    cases literal with
    | number n =>
      cases more : n.addInt? 1 with
      | some r => simp [satisfying, more, BoundaryFault.orNumber] at h
      | none =>
        cases v with
        | number d =>
          have larger := Decimal.lt_iff_toRat_lt.1 holds
          exact larger.not_ge (Decimal.toRat_le_of_addInt?_one_eq_none more d)
        | _ => cases holds
    | _ => cases v <;> cases holds
  | lessOrEqual =>
    cases literal with
    | number n => cases h
    | _ => cases v <;> cases holds
  | inList =>
    cases literal with
    | list items =>
      cases items with
      | nil => cases holds
      | cons item items => cases h
    | _ => cases holds

/-! ## Negative values -/

/-- A number that is one more or one less is another one. -/
theorem beq_number_of_addInt? {n d : Decimal}
    (h : (n.addInt? 1).or (n.addInt? (-1)) = some d) : (Value.number d == .number n) = false := by
  refine Bool.eq_false_iff.2 fun equal => ?_
  have same := Decimal.beq_iff_toRat_eq.1 equal
  rcases Option.or_eq_some_iff.1 h with more | ⟨-, less⟩
  · exact (Decimal.lt_of_addInt?_one more).ne' same
  · exact (Decimal.lt_of_addInt?_neg_one less).ne same

theorem beq_text_append (s : String) : (Value.text (s ++ "~") == .text s) = false := by
  refine Bool.eq_false_iff.2 fun equal => ?_
  have same : s ++ "~" = s := eq_of_beq equal
  have := congrArg String.length same
  simp at this

theorem beq_list_append (items : List Value) (v : Value) :
    (Value.list (items ++ [v]) == .list items) = false := by
  refine Bool.eq_false_iff.2 fun equal => ?_
  have := (Value.sameItems_iff_forall₂.1 equal).length_eq
  simp at this

/-- A negative value is compared with the literal and does not match it. -/
theorem outcome_negative (usable : op.fault? literal = none)
    (h : op.negative literal = .ok v) : op.outcome v literal = .notMatched := by
  rw [outcome_eq_notMatched_iff, compares_iff]
  unfold negative at h
  split at h
  -- the cases are the operators with the kinds of their literals, in the order of the definition
  · rename_i b
    cases h
    refine ⟨List.mem_singleton_self _, ?_⟩
    cases b <;> rfl
  · rename_i n
    obtain ⟨r, other, rfl⟩ := BoundaryFault.orNumber_eq_ok_iff.1 h
    exact ⟨List.mem_singleton_self _, beq_number_of_addInt? other⟩
  · rename_i s
    cases h
    exact ⟨List.mem_singleton_self _, beq_text_append s⟩
  · rename_i items
    cases h
    exact ⟨List.mem_singleton_self _, beq_list_append items _⟩
  · cases h
    refine ⟨List.mem_singleton_self _, Bool.eq_false_iff.2 fun less => ?_⟩
    exact lt_irrefl _ (Decimal.lt_iff_toRat_lt.1 less)
  · obtain ⟨r, more, rfl⟩ := BoundaryFault.orNumber_eq_ok_iff.1 h
    refine ⟨List.mem_singleton_self _, ?_⟩
    rw [holds, Decimal.lt_iff_toRat_lt.2 (Decimal.lt_of_addInt?_one more), Bool.not_true]
  · split at h
    · cases h
    · rename_i s notEmpty
      cases h
      refine ⟨List.mem_cons_self, ?_⟩
      show occurs s.toList [] = false
      rw [occurs, List.isEmpty_eq_false_iff]
      exact fun nothing => notEmpty (String.toList_eq_nil_iff.1 nothing)
  · cases h
    have scalar := isScalar_of_contains_usable usable
    exact ⟨list_mem_comparableKinds_contains scalar, rfl⟩
  · rename_i items
    exact ⟨kind_mem_comparableKinds_inList (Value.isScalar_of_outside h), Value.contains_outside h⟩
  · cases h

end Operator

end RuleActivation
