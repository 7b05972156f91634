import RuleActivation.Proofs.Boundary.Outcome
import RuleActivation.Proofs.Evaluation.Meaning
import RuleActivation.Proofs.Synthesis.Cases
import RuleActivation.Rule.Definition
import Mathlib.Data.List.Nodup

/-!
# What an exclusion says

A rule is excluded if the candidates of its variables do not satisfy it. Only the satisfying values
of single conditions are tried as candidates, so another value may suit several conditions at once
when none of theirs does. Such a variable is contested. An environment that satisfies an excluded
rule has to make use of one; without contested variables exactly the unsatisfiable rules are
excluded.

## Main definitions

* `Node.Contested`: variables with several conditions that none of their candidates suits

## Main results

* `Node.contested_of_not_trueIn`: why a leaf is false in the candidates
* `Rule.contested_of_excluded`: what follows if a rule is excluded
* `Rule.exists_excluded_evaluate`: a rule that is excluded but can be satisfied
-/

namespace RuleActivation

/-! ## Values that suit a condition -/

namespace Condition

variable {c : Condition} {v : Value} {env : Environment}

theorem holds_iff : c.holds v = true ↔ c.operator.outcome v c.literal = .matched := by
  rw [holds, Bool.and_eq_true, Operator.outcome_eq_matched_iff]

theorem holds_of_satisfying (h : c.satisfying = .ok v) : c.holds v = true :=
  holds_iff.2 (Operator.outcome_satisfying c.usable h)

theorem trueIn_of_holds (given : env.get? c.variableName = some v) (h : c.holds v = true) :
    c.TrueIn env := by
  have found : env.lookup c.variableName = v := by
    rw [Environment.lookup, given, Option.getD_some]
  rw [← satisfied_iff_trueIn, outcome, found, holds_iff.1 h]
  rfl

/-- A condition that is true somewhere has a satisfying value. -/
theorem TrueIn.exists_satisfying (h : c.TrueIn env) : ∃ v, c.satisfying = .ok v := by
  rcases h with ⟨-, equals, -⟩ | ⟨compared, holds⟩
  · exact ⟨c.literal, by rw [satisfying, equals, Operator.satisfying]⟩
  · have matched := Operator.outcome_eq_matched_iff.2 ⟨Operator.compares_iff.2 compared, holds⟩
    cases found : c.satisfying with
    | ok v => exact ⟨v, rfl⟩
    | error fault => exact absurd matched (Operator.outcome_ne_matched_of_satisfying found _)

end Condition

/-! ## Candidates -/

variable {conditions : List Condition} {c : Condition} {v : Value}

theorem exists_candidate?_of_satisfying (mem : c ∈ conditions) (h : c.satisfying = .ok v) :
    ∃ w, candidate? conditions = some w := by
  have listed := mem_filterMap_satisfying_iff.2 ⟨c, mem, h⟩
  obtain ⟨first, rest, candidates⟩ := List.exists_cons_of_ne_nil (List.ne_nil_of_mem listed)
  rw [candidate?, candidates]
  cases (first :: rest).find? fun value => conditions.all (·.holds value) with
  | none => exact ⟨first, rfl⟩
  | some w => exact ⟨w, rfl⟩

/-- A candidate suits all conditions, unless none of their satisfying values does. -/
theorem holds_of_candidate?_eq_some (h : candidate? conditions = some v) :
    (∀ c ∈ conditions, c.holds v = true) ∨
      ∀ c ∈ conditions, ∀ w, c.satisfying = .ok w → ∃ d ∈ conditions, d.holds w = false := by
  rcases Option.or_eq_some_iff.1 h with found | ⟨unsuited, -⟩
  · left
    have suited := List.find?_some found
    exact List.all_eq_true.1 suited
  · right
    intro c mem w satisfying
    have listed := mem_filterMap_satisfying_iff.2 ⟨c, mem, satisfying⟩
    have fails := List.find?_eq_none.1 unsuited w listed
    simpa using fails

namespace Node

/-! ## Contested variables -/

/-- A variable is contested if conditions on it have satisfying values, but each of these fails
another condition on it. -/
structure Contested (n : Node) (name : String) : Prop where
  exists_satisfying : ∃ c ∈ n.conditionsOn name, ∃ v, c.satisfying = .ok v
  fails : ∀ c ∈ n.conditionsOn name, ∀ v, c.satisfying = .ok v →
    ∃ d ∈ n.conditionsOn name, d.holds v = false

variable {n : Node} {name : String} {p : Position}

/-- A contested variable has two different leaves. -/
theorem Contested.exists_leaves (h : n.Contested name) :
    ∃ a ∈ n.leaves, ∃ b ∈ n.leaves, a ≠ b ∧
      a.2.variableName = name ∧ b.2.variableName = name := by
  obtain ⟨c, mem, v, satisfying⟩ := h.exists_satisfying
  obtain ⟨d, other, fails⟩ := h.fails c mem v satisfying
  obtain ⟨⟨p, hc⟩, onName⟩ := mem_conditionsOn.1 mem
  obtain ⟨⟨q, hd⟩, alsoOnName⟩ := mem_conditionsOn.1 other
  refine ⟨(p, c), hc, (q, d), hd, ?_, onName, alsoOnName⟩
  rintro ⟨⟩
  exact Bool.eq_false_iff.1 fails (Condition.holds_of_satisfying satisfying)

theorem not_contested_of_nodup (distinct : (n.leaves.map (·.2.variableName)).Nodup)
    (name : String) : ¬ n.Contested name := by
  intro contested
  obtain ⟨a, ha, b, hb, other, onName, alsoOnName⟩ := contested.exists_leaves
  exact other (List.inj_on_of_nodup_map distinct ha hb (onName.trans alsoOnName.symm))

/-- A leaf that has a satisfying value is true in the candidates, or its variable is contested. -/
theorem contested_of_not_trueIn (leaf : (p, c) ∈ n.leaves) (h : c.satisfying = .ok v)
    (fails : ¬ c.TrueIn n.candidates) : n.Contested c.variableName := by
  have mem : c ∈ n.conditionsOn c.variableName := mem_conditionsOn.2 ⟨⟨p, leaf⟩, rfl⟩
  obtain ⟨w, candidate⟩ := exists_candidate?_of_satisfying mem h
  refine ⟨⟨c, mem, v, h⟩, ?_⟩
  rcases holds_of_candidate?_eq_some candidate with suited | unsuited
  · have given := (get?_candidates n c.variableName).trans candidate
    exact absurd (Condition.trueIn_of_holds given (suited c mem)) fails
  · exact unsuited

/-- Without shared variables, all leaves that have satisfying values are true in the candidates. -/
theorem trueIn_candidates_of_nodup (distinct : (n.leaves.map (·.2.variableName)).Nodup)
    (leaf : (p, c) ∈ n.leaves) (h : c.satisfying = .ok v) : c.TrueIn n.candidates := by
  by_contra fails
  exact not_contested_of_nodup distinct _ (contested_of_not_trueIn leaf h fails)

end Node

/-! ## Excluded rules -/

namespace Rule

variable {r : Rule}

theorem excluded_ne_none_iff :
    r.synthesize.excluded ≠ none ↔ r.evaluate r.tree.candidates = false := by
  rw [Ne, excluded_eq_none_iff, Bool.eq_false_iff]
  simp [baseline_eq_ok_iff]

/-- An environment that satisfies an excluded rule makes a leaf on a contested variable true that is
false in the candidates. -/
theorem exists_leaf_of_excluded (excluded : r.synthesize.excluded ≠ none) {env : Environment}
    (h : r.evaluate env = true) :
    ∃ leaf ∈ r.tree.leaves, leaf.2.TrueIn env ∧ ¬ leaf.2.TrueIn r.tree.candidates ∧
      r.tree.Contested leaf.2.variableName := by
  by_contra none
  have kept : ∀ leaf ∈ r.tree.leaves, leaf.2.TrueIn env → leaf.2.TrueIn r.tree.candidates := by
    intro leaf mem inEnv
    by_contra fails
    obtain ⟨v, satisfying⟩ := inEnv.exists_satisfying
    exact none ⟨leaf, mem, inEnv, fails, Node.contested_of_not_trueIn mem satisfying fails⟩
  have satisfied := Node.evaluate_iff_trueIn.2 ((Node.evaluate_iff_trueIn.1 h).mono kept)
  exact Bool.eq_false_iff.1 (excluded_ne_none_iff.1 excluded) satisfied

/-- What it says that a rule is excluded. A rule that is not can be satisfied. One that is can be
satisfied only through a leaf on a contested variable. Without contested variables, and so without
shared ones, the excluded rules are those that no environment satisfies. -/
theorem contested_of_excluded (r : Rule) :
    (r.synthesize.excluded = none → ∃ env, r.evaluate env = true) ∧
    (r.synthesize.excluded ≠ none → ∀ env, r.evaluate env = true →
      ∃ leaf ∈ r.tree.leaves, leaf.2.TrueIn env ∧ ¬ leaf.2.TrueIn r.tree.candidates ∧
        r.tree.Contested leaf.2.variableName) ∧
    ((∀ name, ¬ r.tree.Contested name) →
      (r.synthesize.excluded ≠ none ↔ ∀ env, r.evaluate env = false)) ∧
    ((r.tree.leaves.map (·.2.variableName)).Nodup → ∀ name, ¬ r.tree.Contested name) := by
  have satisfiable : r.synthesize.excluded = none → ∃ env, r.evaluate env = true := by
    intro included
    obtain ⟨env, baseline⟩ := excluded_eq_none_iff.1 included
    exact ⟨env, (baseline_eq_ok_iff.1 baseline).2⟩
  refine ⟨satisfiable, fun excluded env => exists_leaf_of_excluded excluded, ?_,
    Node.not_contested_of_nodup⟩
  intro uncontested
  constructor
  · intro excluded env
    rw [Bool.eq_false_iff]
    intro satisfied
    obtain ⟨leaf, -, -, -, contested⟩ := exists_leaf_of_excluded excluded satisfied
    exact uncontested _ contested
  · intro unsatisfiable included
    obtain ⟨env, satisfied⟩ := satisfiable included
    exact Bool.eq_false_iff.1 (unsatisfiable env) satisfied

/-- A rule that asks for two texts in one is excluded, since neither of them contains the other. -/
theorem exists_excluded_evaluate :
    ∃ r env, Rule.ofJson (.object [("id", .ofNat 1), ("name", .string "a"),
        ("title", .string "t"), ("ast", .object [("type", .string "and"), ("children", .array [
          .object [("type", .string "condition"), ("variable", .string "x"),
            ("operator", .string "contains"), ("value", .string "a")],
          .object [("type", .string "condition"), ("variable", .string "x"),
            ("operator", .string "contains"), ("value", .string "b")]])])]) = .ok r ∧
      r.synthesize.excluded = some .unsatisfied ∧ r.evaluate env = true :=
  ⟨_, (∅ : Environment).insert "x" (.text "ab"), rfl, by decide, by decide⟩

end Rule

end RuleActivation
