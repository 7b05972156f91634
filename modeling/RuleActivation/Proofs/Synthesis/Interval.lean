import Mathlib.Data.Set.Finite.Lemmas
import RuleActivation.Proofs.Evaluation.Withholding
import RuleActivation.Proofs.Synthesis.Exclusion

/-!
# Rules that demand intervals

A condition on equality demands one value, one on order demands the numbers on one side of its
literal. Several such conditions on a variable can only be satisfied together by a value that all of
their intervals contain. If there is one at all, the satisfying value of one of the conditions is
such a value: a value that is demanded, the least of the upper bounds, or, with lower bounds alone,
one more than the greatest of them.

## Main definitions

* `Condition.DemandsInterval`: conditions whose values form an interval
* `Condition.bound`: the number that a condition compares with

## Main results

* `exists_satisfying_of_forall_holds`: a common value of intervals is found at one of their ends
* `Rule.matched_of_satisfied`: rules that demand intervals are not excluded without need
-/

namespace RuleActivation

namespace Condition

variable {c : Condition} {v w : Value}

/-- The values that satisfy the condition form an interval: one value, or the numbers on one side of
the literal. -/
def DemandsInterval (c : Condition) : Prop :=
  c.operator = .equals ∨ c.operator = .greaterThan ∨ c.operator = .lessOrEqual

/-- The number of the literal. -/
def bound (c : Condition) : ℚ := c.literal.asNumber?.elim 0 Decimal.toRat

instance : Decidable c.DemandsInterval :=
  inferInstanceAs (Decidable (c.operator = .equals ∨ _ ∨ _))

/-! ## Conditions on order -/

theorem exists_literal_eq_number (order : c.operator = .greaterThan ∨ c.operator = .lessOrEqual) :
    ∃ n, c.literal = .number n ∧ c.bound = n.toRat := by
  obtain ⟨n, literal⟩ := Operator.exists_number_of_usable order c.usable
  exact ⟨n, literal, by rw [bound, literal, Value.asNumber?, Option.elim_some]⟩

theorem holds_greaterThan_iff (operator : c.operator = .greaterThan) :
    c.holds v = true ↔ ∃ d, v = .number d ∧ c.bound < d.toRat := by
  obtain ⟨n, literal, bound⟩ := exists_literal_eq_number (.inl operator)
  rw [holds_iff, operator, literal, bound, Operator.outcome_eq_matched_iff]
  constructor
  · rintro ⟨-, holds⟩
    cases v with
    | number d => exact ⟨d, rfl, Decimal.lt_iff_toRat_lt.1 holds⟩
    | _ => cases holds
  · rintro ⟨d, rfl, larger⟩
    exact ⟨rfl, Decimal.lt_iff_toRat_lt.2 larger⟩

theorem holds_lessOrEqual_iff (operator : c.operator = .lessOrEqual) :
    c.holds v = true ↔ ∃ d, v = .number d ∧ d.toRat ≤ c.bound := by
  obtain ⟨n, literal, bound⟩ := exists_literal_eq_number (.inr operator)
  have holds_iff_le (d : Decimal) :
      Operator.lessOrEqual.holds (.number d) (.number n) = true ↔ d.toRat ≤ n.toRat := by
    rw [Operator.holds, Bool.not_eq_true', Bool.eq_false_iff, Ne, Decimal.lt_iff_toRat_lt, not_lt]
  rw [holds_iff, operator, literal, bound, Operator.outcome_eq_matched_iff]
  constructor
  · rintro ⟨-, holds⟩
    cases v with
    | number d => exact ⟨d, rfl, (holds_iff_le d).1 holds⟩
    | _ => cases holds
  · rintro ⟨d, rfl, smaller⟩
    exact ⟨rfl, (holds_iff_le d).2 smaller⟩

/-- The satisfying value of an upper bound is this bound. -/
theorem exists_satisfying_lessOrEqual (operator : c.operator = .lessOrEqual) :
    ∃ d, c.satisfying = .ok (.number d) ∧ d.toRat = c.bound := by
  obtain ⟨n, literal, bound⟩ := exists_literal_eq_number (.inr operator)
  refine ⟨n, ?_, bound.symm⟩
  rw [satisfying, operator, literal, Operator.satisfying]

/-- The satisfying value of a lower bound is a larger number, if there is one. -/
theorem exists_satisfying_greaterThan (operator : c.operator = .greaterThan)
    (holds : c.holds v = true) :
    ∃ d, c.satisfying = .ok (.number d) ∧ c.bound < d.toRat := by
  obtain ⟨n, literal, bound⟩ := exists_literal_eq_number (.inl operator)
  cases satisfying : c.satisfying with
  | error fault =>
    have unmatched := Operator.outcome_ne_matched_of_satisfying satisfying v
    exact absurd (holds_iff.1 holds) unmatched
  | ok w =>
    obtain ⟨d, rfl, larger⟩ := (holds_greaterThan_iff operator).1 (holds_of_satisfying satisfying)
    exact ⟨d, rfl, larger⟩

/-! ## Conditions on equality -/

theorem holds_of_beq (equal : (v == w) = true) (h : c.holds v = true) : c.holds w = true := by
  rw [holds_iff] at h ⊢
  rw [← Operator.outcome_congr _ equal (BEq.refl c.literal)]
  exact h

theorem beq_literal_of_holds (operator : c.operator = .equals) (h : c.holds v = true) :
    (v == c.literal) = true := by
  rw [holds_iff, operator, Operator.outcome_eq_matched_iff] at h
  exact h.2

end Condition

/-! ## Several conditions on one variable -/

section

variable {conditions : List Condition} {v : Value}

/-- A common value of upper and lower bounds is no larger than the least upper bound. -/
theorem exists_satisfying_of_lessOrEqual
    (order : ∀ c ∈ conditions, c.operator = .greaterThan ∨ c.operator = .lessOrEqual)
    (suited : ∀ c ∈ conditions, c.holds v = true)
    (bounded : ∃ c ∈ conditions, c.operator = .lessOrEqual) :
    ∃ c ∈ conditions, ∃ w, c.satisfying = .ok w ∧ ∀ d ∈ conditions, d.holds w = true := by
  obtain ⟨c, ⟨mem, operator⟩, least⟩ :=
    Set.exists_min_image {c | c ∈ conditions ∧ c.operator = .lessOrEqual} Condition.bound
      ((List.finite_toSet conditions).subset fun _ h => h.1) bounded
  obtain ⟨n, satisfying, number⟩ := Condition.exists_satisfying_lessOrEqual operator
  obtain ⟨x, rfl, below⟩ := (Condition.holds_lessOrEqual_iff operator).1 (suited c mem)
  refine ⟨c, mem, _, satisfying, fun d other => ?_⟩
  rcases order d other with greater | less
  · obtain ⟨_, ⟨⟩, above⟩ := (Condition.holds_greaterThan_iff greater).1 (suited d other)
    exact (Condition.holds_greaterThan_iff greater).2 ⟨n, rfl, above.trans_le (number ▸ below)⟩
  · exact (Condition.holds_lessOrEqual_iff less).2 ⟨n, rfl, number ▸ least d ⟨other, less⟩⟩

/-- Lower bounds alone are all exceeded by a number that exceeds the greatest of them. -/
theorem exists_satisfying_of_greaterThan (nonempty : conditions ≠ [])
    (order : ∀ c ∈ conditions, c.operator = .greaterThan)
    (suited : ∀ c ∈ conditions, c.holds v = true) :
    ∃ c ∈ conditions, ∃ w, c.satisfying = .ok w ∧ ∀ d ∈ conditions, d.holds w = true := by
  obtain ⟨c, mem, greatest⟩ :=
    Set.exists_max_image {c | c ∈ conditions} Condition.bound (List.finite_toSet conditions)
      (List.exists_mem_of_ne_nil conditions nonempty)
  obtain ⟨n, satisfying, larger⟩ :=
    Condition.exists_satisfying_greaterThan (order c mem) (suited c mem)
  refine ⟨c, mem, _, satisfying, fun d other => ?_⟩
  apply (Condition.holds_greaterThan_iff (order d other)).2
  exact ⟨n, rfl, (greatest d other).trans_lt larger⟩

/-- If all intervals that some conditions demand contain a value, they contain the satisfying value
of one of the conditions. -/
theorem exists_satisfying_of_forall_holds (nonempty : conditions ≠ [])
    (intervals : ∀ c ∈ conditions, c.DemandsInterval)
    (suited : ∀ c ∈ conditions, c.holds v = true) :
    ∃ c ∈ conditions, ∃ w, c.satisfying = .ok w ∧ ∀ d ∈ conditions, d.holds w = true := by
  by_cases point : ∃ c ∈ conditions, c.operator = .equals
  · obtain ⟨c, mem, operator⟩ := point
    have equal := Condition.beq_literal_of_holds operator (suited c mem)
    refine ⟨c, mem, c.literal, ?_, fun d other => Condition.holds_of_beq equal (suited d other)⟩
    rw [Condition.satisfying, operator, Operator.satisfying]
  · have order : ∀ c ∈ conditions, c.operator = .greaterThan ∨ c.operator = .lessOrEqual := by
      intro c mem
      exact (intervals c mem).resolve_left fun operator => point ⟨c, mem, operator⟩
    by_cases bounded : ∃ c ∈ conditions, c.operator = .lessOrEqual
    · exact exists_satisfying_of_lessOrEqual order suited bounded
    · refine exists_satisfying_of_greaterThan nonempty (fun c mem => ?_) suited
      exact (order c mem).resolve_right fun operator => bounded ⟨c, mem, operator⟩

/-- The candidate for conditions that demand intervals suits all of them, if any value does. -/
theorem exists_candidate?_of_forall_holds (nonempty : conditions ≠ [])
    (intervals : ∀ c ∈ conditions, c.DemandsInterval)
    (suited : ∀ c ∈ conditions, c.holds v = true) :
    ∃ w, candidate? conditions = some w ∧ ∀ c ∈ conditions, c.holds w = true := by
  obtain ⟨c, mem, w, satisfying, common⟩ :=
    exists_satisfying_of_forall_holds nonempty intervals suited
  obtain ⟨x, candidate⟩ := exists_candidate?_of_satisfying mem satisfying
  refine ⟨x, candidate, ?_⟩
  rcases holds_of_candidate?_eq_some candidate with holds | unsuited
  · exact holds
  · obtain ⟨d, other, fails⟩ := unsuited c mem w satisfying
    rw [common d other] at fails
    cases fails

end

/-! ## Rules -/

variable {env : Environment}

/-- The value that satisfies all conditions on a variable in an environment; where the variable is
absent, they all demand a falsehood. -/
theorem exists_forall_holds_of_trueIn {conditions : List Condition} {name : String}
    (named : ∀ c ∈ conditions, c.variableName = name)
    (satisfied : ∀ c ∈ conditions, c.TrueIn env) :
    ∃ v, ∀ c ∈ conditions, c.holds v = true := by
  by_cases absent : (env.lookup name).isAbsent = true
  · refine ⟨.bool false, fun c mem => ?_⟩
    rw [← named c mem] at absent
    obtain ⟨operator, literal⟩ := (satisfied c mem).demandsFalse_of_isAbsent absent
    rw [Condition.holds_iff, operator, literal]
    rfl
  · refine ⟨env.lookup name, fun c mem => ?_⟩
    rcases satisfied c mem with ⟨isAbsent, -⟩ | ⟨compared, holds⟩
    · rw [named c mem] at isAbsent
      exact absurd isAbsent absent
    · rw [named c mem] at compared holds
      rw [Condition.holds_iff, Operator.outcome_eq_matched_iff]
      exact ⟨Operator.compares_iff.2 compared, holds⟩

/-- In a tree whose leaves demand intervals, all leaves match in the candidates, if all leaves are
true in some environment. -/
theorem Node.outcome_candidates_eq_matched {n : Node}
    (intervals : ∀ leaf ∈ n.leaves, leaf.2.DemandsInterval)
    (satisfied : ∀ leaf ∈ n.leaves, leaf.2.TrueIn env) :
    ∀ leaf ∈ n.leaves, leaf.2.outcome n.candidates = .matched := by
  rintro ⟨p, c⟩ leaf
  have mem : c ∈ n.conditionsOn c.variableName := mem_conditionsOn.2 ⟨⟨p, leaf⟩, rfl⟩
  have onName : ∀ d ∈ n.conditionsOn c.variableName,
      d.DemandsInterval ∧ d.TrueIn env ∧ d.variableName = c.variableName := by
    intro d other
    obtain ⟨⟨q, leaf⟩, named⟩ := mem_conditionsOn.1 other
    exact ⟨intervals _ leaf, satisfied _ leaf, named⟩
  obtain ⟨v, suited⟩ := exists_forall_holds_of_trueIn (fun d other => (onName d other).2.2)
    fun d other => (onName d other).2.1
  obtain ⟨w, candidate, holds⟩ := exists_candidate?_of_forall_holds (List.ne_nil_of_mem mem)
    (fun d other => (onName d other).1) suited
  have given := (get?_candidates n c.variableName).trans candidate
  rw [Condition.outcome, Environment.lookup, given, Option.getD_some]
  exact Condition.holds_iff.1 (holds c mem)

/-- A rule whose leaves demand intervals is not excluded if all of its leaves are satisfied in some
environment, and in its baseline they all match. -/
theorem Rule.matched_of_satisfied {r : Rule}
    (intervals : ∀ leaf ∈ r.tree.leaves, leaf.2.DemandsInterval)
    (satisfied : ∀ leaf ∈ r.tree.leaves, (leaf.2.outcome env).satisfied = true) :
    r.synthesize.excluded = none ∧
      ∃ baseline, (∀ c, c ∈ r.synthesize.cases ∧ c.label = .positiveAll ↔
          c = ⟨r.id, .positiveAll, baseline, true⟩) ∧
        ∀ leaf ∈ r.tree.leaves, leaf.2.outcome baseline = .matched := by
  have matched := Node.outcome_candidates_eq_matched intervals fun leaf mem =>
    Condition.satisfied_iff_trueIn.1 (satisfied leaf mem)
  have activated : r.evaluate r.tree.candidates = true := by
    apply Node.evaluate_iff_trueIn.2
    apply Node.trueIn_of_leaves
    intro leaf mem
    rw [← Condition.satisfied_iff_trueIn, matched leaf mem]
    rfl
  have built := baseline_eq_ok_iff.2 ⟨rfl, activated⟩
  refine ⟨excluded_eq_none_iff.2 ⟨_, built⟩, _, fun c => ?_, matched⟩
  rw [mem_cases_positiveAll_iff built, caseOf, activated]

/-- The definition of a rule with two bounds, a quarter apart, and a variable that may be absent. -/
def boundedDefinition : Json :=
  .object [("id", .ofNat 1), ("name", .string "a"), ("title", .string "t"),
    ("ast", .object [("type", .string "and"), ("children", .array [
      .object [("type", .string "condition"), ("variable", .string "x"),
        ("operator", .string "greater_than"), ("value", .number ⟨false, 3, Digit.ofNat 1 5, none⟩)],
      .object [("type", .string "or"), ("children", .array [
        .object [("type", .string "condition"), ("variable", .string "y"),
          ("operator", .string "equals"), ("value", .bool false)],
        .object [("type", .string "condition"), ("variable", .string "x"),
          ("operator", .string "less_or_equal"),
          ("value", .number ⟨false, 3, Digit.ofNat 2 75, none⟩)]])]])])]

theorem Rule.matched_of_satisfied_bounded :
    ∃ r env, Rule.ofJson boundedDefinition = .ok r ∧
      Environment.ofJson (.object [("x", .number ⟨false, 3, [6], none⟩)]) = .ok env ∧
      (∀ leaf ∈ r.tree.leaves, leaf.2.DemandsInterval) ∧
      (∀ leaf ∈ r.tree.leaves, (leaf.2.outcome env).satisfied = true) ∧
      r.synthesize.excluded = none ∧
      ∃ baseline, (∀ c, c ∈ r.synthesize.cases ∧ c.label = .positiveAll ↔
          c = ⟨r.id, .positiveAll, baseline, true⟩) ∧
        ∀ leaf ∈ r.tree.leaves, leaf.2.outcome baseline = .matched := by
  refine ⟨_, _, rfl, rfl, ?intervals, ?satisfied, matched_of_satisfied ?intervals ?satisfied⟩
  case intervals => decide
  case satisfied => decide

end RuleActivation
