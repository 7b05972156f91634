import RuleActivation.Proofs.Boundary.Exactness
import RuleActivation.Proofs.Decimal.Largest

/-!
# Negative values are of the satisfying kind

A negative value fails its condition wherever the variable has it, and it is of the kind of the
satisfying value. If every value of this kind matches, there is none. There is also none outside of
a list of numbers with the largest one, although smaller numbers may be missing from the list: only
one more than its largest number is tried.

## Main definitions

* `Condition.Covers`: conditions that no value of a kind fails
* `Condition.ListsLargest`: conditions on lists of numbers with the largest one

## Main results

* `Condition.resolve_of_negative`: a negative value fails its condition and keeps the kind
* `Condition.negative_eq_error_iff`: when there is no negative value
* `Condition.exists_negative_eq_error_outcome_eq_notMatched`: there may be none without need
-/

namespace RuleActivation

/-! ## Kinds -/

theorem BoundaryFault.kind_of_orNumber {fault : BoundaryFault} {n : Option Decimal} {v : Value}
    (h : fault.orNumber n = .ok v) : v.kind = .number := by
  obtain ⟨d, -, rfl⟩ := orNumber_eq_ok_iff.1 h
  rfl

theorem BoundaryFault.eq_none_of_orNumber {fault other : BoundaryFault} {n : Option Decimal}
    (h : fault.orNumber n = .error other) : n = none := by
  cases n with
  | none => rfl
  | some d => cases h

/-- A value outside a list is of the kind of the first item. -/
theorem Value.kind_outside {item v : Value} {rest : List Value}
    (h : outside (item :: rest) = .ok v) : v.kind = item.kind := by
  cases item with
  | bool b =>
    rw [outside] at h
    split at h
    · cases h
      rfl
    · cases h
  | number n => exact BoundaryFault.kind_of_orNumber h
  | text s =>
    cases h
    rfl
  | list _ | absent _ => cases h

/-- A negative value is of the kind of the satisfying value. -/
theorem Operator.kind_of_negative {op : Operator} {literal v w : Value}
    (negative : op.negative literal = .ok v) (satisfying : op.satisfying literal = .ok w) :
    v.kind = w.kind := by
  cases op with
  | equals =>
    cases satisfying
    cases literal with
    | number n => exact BoundaryFault.kind_of_orNumber negative
    | absent _ => cases negative
    | bool _ | text _ | list _ =>
      cases negative
      rfl
  | contains =>
    cases literal with
    | text s =>
      cases satisfying
      rw [Operator.negative] at negative
      split at negative
      · cases negative
      · cases negative
        rfl
    | bool _ | number _ | list _ | absent _ =>
      cases satisfying
      cases negative
      rfl
  | greaterThan =>
    cases literal with
    | number n =>
      cases negative
      exact (BoundaryFault.kind_of_orNumber satisfying).symm
    | _ => cases negative
  | lessOrEqual =>
    cases literal with
    | number n =>
      cases satisfying
      exact BoundaryFault.kind_of_orNumber negative
    | _ => cases negative
  | inList =>
    cases literal with
    | list items =>
      cases items with
      | nil => cases satisfying
      | cons item rest =>
        cases satisfying
        exact Value.kind_outside negative
    | _ => cases satisfying

/-! ## Lists of numbers -/

theorem Decimal.maximum_mem (first : Decimal) (rest : List Decimal) :
    maximum first rest ∈ first :: rest := by
  induction rest generalizing first with
  | nil => exact List.mem_singleton_self first
  | cons d rest ih =>
    rw [maximum, List.foldl_cons]
    rcases List.mem_cons.1 (ih (if d.lt first then first else d)) with same | mem
    · rw [maximum] at same
      rw [same]
      split
      · exact List.mem_cons_self
      · exact List.mem_cons_of_mem _ List.mem_cons_self
    · exact List.mem_cons_of_mem _ (List.mem_cons_of_mem _ mem)

theorem Decimal.addInt?_maximum_eq_none_iff {first : Decimal} {rest : List Decimal} :
    (maximum first rest).addInt? 1 = none ↔ ∃ d ∈ first :: rest, (largest == d) = true := by
  rw [addInt?_one_eq_none_iff]
  constructor
  · intro same
    exact ⟨_, maximum_mem first rest, BEq.symm same⟩
  · rintro ⟨d, mem, same⟩
    have number := beq_iff_toRat_eq.1 same
    have bounded := toRat_le_maximum mem
    rw [← number] at bounded
    exact beq_iff_toRat_eq.2 (le_antisymm (toRat_le_largest _) bounded)

namespace Value

theorem contains_number_iff {items : List Value} {d : Decimal} :
    items.contains (.number d) = true ↔ ∃ e ∈ items.filterMap asNumber?, (d == e) = true := by
  rw [List.contains_eq_any_beq, List.any_eq_true]
  constructor
  · rintro ⟨item, mem, equal⟩
    cases beq_iff_equal.1 equal with
    | @number _ e same => exact ⟨e, List.mem_filterMap.2 ⟨_, mem, rfl⟩, same⟩
  · rintro ⟨e, mem, same⟩
    obtain ⟨item, mem, number⟩ := List.mem_filterMap.1 mem
    cases item with
    | number _ =>
      cases number
      exact ⟨_, mem, same⟩
    | _ => cases number

/-- There is no negative number for a list with the largest number, and for no other list that
begins with a number. -/
theorem outside_number_eq_error_iff {n : Decimal} {rest : List Value} :
    (∃ fault, outside (number n :: rest) = .error fault) ↔
      (number n :: rest).contains (number .largest) = true := by
  rw [contains_number_iff]
  refine Iff.trans ?_ Decimal.addInt?_maximum_eq_none_iff
  rw [outside]
  cases (n.maximum (rest.filterMap asNumber?)).addInt? 1 <;> simp [BoundaryFault.orNumber]

theorem contains_of_unlistedBool?_eq_none {items : List Value} (h : unlistedBool? items = none)
    (b : Bool) : items.contains (.bool b) = true := by
  rw [unlistedBool?] at h
  split at h
  · split at h
    · cases b <;> assumption
    · cases h
  · cases h

/-- There is no negative truth value only for a list with both of them. -/
theorem contains_of_outside_bool {b : Bool} {rest : List Value} {fault : BoundaryFault}
    (h : outside (bool b :: rest) = .error fault) (c : Bool) :
    (bool b :: rest).contains (.bool c) = true := by
  rw [outside] at h
  split at h
  · cases h
  · rename_i unlisted
    exact contains_of_unlistedBool?_eq_none unlisted c

end Value

/-! ## Conditions without a negative value -/

/-- No value of a kind fails the condition. -/
def Condition.Covers (c : Condition) (kind : Kind) : Prop :=
  ∀ env : Environment, (env.lookup c.variableName).kind = kind → c.outcome env ≠ .notMatched

/-- The condition is on being in a list that begins with a number and has the largest decimal. -/
structure Condition.ListsLargest (c : Condition) (items : List Value) : Prop where
  operator : c.operator = .inList
  literal : c.literal = .list items
  head : ∃ n, items.head? = some (.number n)
  listed : items.contains (.number .largest) = true

namespace Operator

variable {op : Operator} {literal v : Value}

theorem outcome_ne_notMatched_of_holds (h : op.holds v literal = true) :
    op.outcome v literal ≠ .notMatched := by
  intro fails
  rw [(outcome_eq_notMatched_iff.1 fails).2] at h
  cases h

theorem negative_equals_number (n : Decimal) : ∃ v, equals.negative (.number n) = .ok v := by
  rw [negative]
  cases more : n.addInt? 1 with
  | some r => exact ⟨_, rfl⟩
  | none =>
    obtain ⟨r, less⟩ := Decimal.exists_addInt?_neg_one_eq_some more
    rw [less]
    exact ⟨_, rfl⟩

theorem occurs_nil (s : List Char) : occurs [] s = true := by
  cases s <;> rfl

theorem holds_lessOrEqual_of_addInt?_eq_none {n : Decimal} (largest : n.addInt? 1 = none)
    (d : Decimal) : lessOrEqual.holds (.number d) (.number n) = true := by
  rw [holds, Bool.not_eq_true', Bool.eq_false_iff]
  intro less
  have larger := Decimal.lt_iff_toRat_lt.1 less
  exact larger.not_ge (Decimal.toRat_le_of_addInt?_one_eq_none largest d)

/-- In a list of scalars, only a truth value or a number at the front can have no negative value. -/
theorem covers_of_outside_eq_error {item : Value} {rest : List Value} {fault : BoundaryFault}
    (scalar : item.isScalar = true) (h : Value.outside (item :: rest) = .error fault) :
    (∀ v, v.kind = item.kind → inList.outcome v (.list (item :: rest)) ≠ .notMatched) ∨
      ∃ n, item = .number n ∧ (item :: rest).contains (.number .largest) = true := by
  cases item with
  | bool b =>
    left
    intro v kind
    cases v with
    | bool c => exact outcome_ne_notMatched_of_holds (Value.contains_of_outside_bool h c)
    | _ => cases kind
  | number n => exact .inr ⟨n, rfl, Value.outside_number_eq_error_iff.1 ⟨fault, h⟩⟩
  | text s => cases h
  | list _ | absent _ => cases scalar

/-- Without a negative value all values of the satisfying kind match the literal, unless it is a
list of numbers with the largest one. -/
theorem covers_of_negative_eq_error {w : Value} {fault : BoundaryFault}
    (usable : op.fault? literal = none) (satisfying : op.satisfying literal = .ok w)
    (missing : op.negative literal = .error fault) :
    (∀ v, v.kind = w.kind → op.outcome v literal ≠ .notMatched) ∨
      op = inList ∧ ∃ n rest, literal = .list (.number n :: rest) ∧
        (Value.number n :: rest).contains (.number .largest) = true := by
  cases op with
  | equals =>
    cases literal with
    | number n =>
      obtain ⟨v, found⟩ := negative_equals_number n
      rw [found] at missing
      cases missing
    | absent _ => cases usable
    | bool _ | text _ | list _ => cases missing
  | contains =>
    cases literal with
    | text s =>
      cases satisfying
      rw [negative] at missing
      split at missing
      · rename_i empty
        left
        intro v kind
        cases v with
        | text t =>
          apply outcome_ne_notMatched_of_holds
          rw [empty]
          exact occurs_nil t.toList
        | _ => cases kind
      · cases missing
    | _ => cases missing
  | greaterThan =>
    obtain ⟨n, rfl⟩ := exists_number_of_usable (.inl rfl) usable
    cases missing
  | lessOrEqual =>
    obtain ⟨n, rfl⟩ := exists_number_of_usable (.inr rfl) usable
    cases satisfying
    have largest := BoundaryFault.eq_none_of_orNumber missing
    left
    intro v kind
    cases v with
    | number d =>
      exact outcome_ne_notMatched_of_holds (holds_lessOrEqual_of_addInt?_eq_none largest d)
    | _ => cases kind
  | inList =>
    cases literal with
    | list items =>
      cases items with
      | nil => cases satisfying
      | cons item rest =>
        cases satisfying
        have scalar := isScalar_of_mem_of_usable usable List.mem_cons_self
        rcases covers_of_outside_eq_error scalar missing with covers | ⟨n, rfl, listed⟩
        · exact .inl covers
        · exact .inr ⟨rfl, n, rest, rfl, listed⟩
    | _ => cases satisfying

end Operator

namespace Condition

variable {c : Condition} {v w : Value}

/-- A negative value fails its condition without a report, in every environment that gives it to the
variable, and it is of the kind of the satisfying value if there is one. -/
theorem resolve_of_negative (negative : c.negative = .ok v) :
    (∀ env p collector, env.get? c.variableName = some v →
      c.resolve env p collector = (.notMatched, collector)) ∧
    ∀ w, c.satisfying = .ok w → v.kind = w.kind := by
  constructor
  · intro env p collector given
    have fails : c.outcome env = .notMatched :=
      (outcome_of_get? given).trans (Operator.outcome_negative c.usable negative)
    rw [resolve_eq, fails, if_neg (by decide)]
  · intro w satisfying
    exact Operator.kind_of_negative negative satisfying

/-- One more than the largest number of this list has too many digits and is rounded. -/
theorem resolve_of_negative_mixed :
    ∃ c v w, make "x" .inList (.list [.number ⟨false, 15, 1, by decide, by decide⟩, .bool true,
        .text "a", .number ⟨false, 79228162514264337593543950335, 1, by decide, by decide⟩]) =
          .ok c ∧
      c.negative = .ok v ∧ c.satisfying = .ok w ∧
      (∀ env p collector, env.get? c.variableName = some v →
        c.resolve env p collector = (.notMatched, collector)) ∧
      v.kind = w.kind := by
  obtain ⟨c, v, w, made, negative, satisfying⟩ : ∃ c v w,
      make "x" .inList (.list [.number ⟨false, 15, 1, by decide, by decide⟩, .bool true,
        .text "a", .number ⟨false, 79228162514264337593543950335, 1, by decide, by decide⟩]) =
          .ok c ∧
        c.negative = .ok v ∧ c.satisfying = .ok w :=
    ⟨_, _, _, rfl, rfl, rfl⟩
  obtain ⟨fails, kind⟩ := resolve_of_negative negative
  exact ⟨c, v, w, made, negative, satisfying, fails, kind w satisfying⟩

theorem outcome_insert_ne_notMatched (covers : c.Covers v.kind) :
    c.operator.outcome v c.literal ≠ .notMatched := by
  rw [← c.outcome_insert_self ∅]
  apply covers
  rw [Environment.lookup_insert, if_pos rfl]

theorem ListsLargest.kind_of_satisfying {items : List Value} (lists : c.ListsLargest items)
    (satisfying : c.satisfying = .ok w) : w.kind = .number := by
  obtain ⟨n, first⟩ := lists.head
  obtain ⟨rest, rfl⟩ := List.head?_eq_some_iff.1 first
  rw [Condition.satisfying, lists.operator, lists.literal] at satisfying
  cases satisfying
  rfl

/-- A list of numbers with the largest one leaves another number out, unless it is very long. -/
theorem ListsLargest.not_covers {items : List Value} (lists : c.ListsLargest items)
    (short : items.length < Decimal.limit) : ¬ c.Covers .number := by
  intro covers
  obtain ⟨d, unlisted⟩ := Decimal.exists_forall_toRat_ne
    ((List.length_filterMap_le Value.asNumber? items).trans_lt short)
  have outside : items.contains (.number d) = false := by
    rw [Bool.eq_false_iff, Ne, Value.contains_number_iff]
    rintro ⟨e, mem, same⟩
    exact unlisted e mem (Decimal.beq_iff_toRat_eq.1 same).symm
  refine outcome_insert_ne_notMatched (v := .number d) covers ?_
  rw [lists.operator, lists.literal, Operator.outcome_eq_notMatched_iff, Operator.compares_iff]
  exact ⟨Operator.kind_mem_comparableKinds_inList rfl, outside⟩

/-- When there is no negative value although there is a satisfying one: either no value of its kind
fails the condition, or this is on a list of numbers with the largest one. Such a list leaves out
other numbers, which fail the condition, unless it is very long. -/
theorem negative_eq_error_iff (satisfying : c.satisfying = .ok w) :
    ((∃ fault, c.negative = .error fault) ↔
      c.Covers w.kind ∨ ∃ items, c.ListsLargest items) ∧
    ∀ items, c.ListsLargest items → items.length < Decimal.limit → ¬ c.Covers w.kind := by
  constructor
  · constructor
    · rintro ⟨fault, missing⟩
      rcases Operator.covers_of_negative_eq_error c.usable satisfying missing with
        covers | ⟨operator, n, rest, literal, listed⟩
      · exact .inl fun env kind => covers _ kind
      · exact .inr ⟨_, operator, literal, ⟨n, rfl⟩, listed⟩
    · rintro (covers | ⟨items, lists⟩)
      · cases negative : c.negative with
        | error fault => exact ⟨fault, rfl⟩
        | ok v =>
          have kind := Operator.kind_of_negative negative satisfying
          rw [← kind] at covers
          have fails := Operator.outcome_negative c.usable negative
          exact absurd fails (outcome_insert_ne_notMatched covers)
      · obtain ⟨n, first⟩ := lists.head
        obtain ⟨rest, rfl⟩ := List.head?_eq_some_iff.1 first
        rw [Condition.negative, lists.operator, lists.literal]
        exact Value.outside_number_eq_error_iff.2 lists.listed
  · intro items lists short
    rw [lists.kind_of_satisfying satisfying]
    exact lists.not_covers short

/-- One half, a text and the largest number: there is no negative value, but many numbers that the
condition fails for. -/
theorem negative_eq_error_iff_half :
    ∃ c w items, make "x" .inList (.list items) = .ok c ∧
      items = [.number ⟨false, 5, 1, by decide, by decide⟩, .text "a", .number .largest] ∧
      c.satisfying = .ok w ∧ (∃ fault, c.negative = .error fault) ∧ ¬ c.Covers w.kind := by
  obtain ⟨c, w, items, made, same, satisfying, lists⟩ : ∃ c w items,
      make "x" .inList (.list items) = .ok c ∧
        items = [.number ⟨false, 5, 1, by decide, by decide⟩, .text "a", .number .largest] ∧
        c.satisfying = .ok w ∧ c.ListsLargest items :=
    ⟨_, _, _, rfl, rfl, rfl, rfl, rfl, ⟨_, rfl⟩, rfl⟩
  obtain ⟨missing, uncovered⟩ := negative_eq_error_iff satisfying
  refine ⟨c, w, items, made, same, satisfying, missing.2 (.inr ⟨items, lists⟩), ?_⟩
  apply uncovered items lists
  rw [same]
  decide

/-- The list of the largest number alone has no negative value, although zero is not in it. -/
theorem exists_negative_eq_error_outcome_eq_notMatched :
    ∃ c w env, make "x" .inList (.list [.number .largest]) = .ok c ∧ c.satisfying = .ok w ∧
      c.negative = .error .largestListed ∧ (env.lookup "x").kind = w.kind ∧
      c.outcome env = .notMatched :=
  ⟨_, _, (∅ : Environment).insert "x" (.number .zero), rfl, rfl, rfl, rfl, rfl⟩

end Condition

end RuleActivation
