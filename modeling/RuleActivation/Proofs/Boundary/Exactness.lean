import RuleActivation.Evaluation.Collector
import RuleActivation.Proofs.Boundary.Outcome

/-!
# Boundary values are exact

A satisfying value decides its condition wherever the variable has it, and there is none only if
nothing could decide the condition in this way. The second part rests on the greatest decimal, since
any other number has a greater one even where a sum has to be rounded.

## Main results

* `Condition.resolve_eq`: what a condition reports
* `Condition.resolve_of_satisfying`: a satisfying value matches, and without one nothing does
-/

namespace RuleActivation.Condition

variable {env : Environment} {v : Value}

/-! ## What a condition reports -/

/-- A condition finds its outcome, and reports it if it is a mismatch. -/
theorem resolve_eq (c : Condition) (env : Environment) (p : Position) (collector : Collector) :
    c.resolve env p collector = (c.outcome env,
      if c.outcome env = .mismatch then
        collector.report p c (env.lookup c.variableName).kind
      else collector) := by
  rw [resolve]
  cases c.outcome env <;> rfl

theorem outcome_of_get? {c : Condition} (given : env.get? c.variableName = some v) :
    c.outcome env = c.operator.outcome v c.literal := by
  rw [outcome, Environment.lookup, given, Option.getD_some]

/-! ## Satisfying values -/

theorem isAbsent_of_satisfying {c : Condition} (h : c.satisfying = .ok v) :
    v.isAbsent = false := by
  have matched := Operator.outcome_satisfying c.usable h
  exact Operator.isAbsent_of_compares (Operator.outcome_eq_matched_iff.1 matched).1

/-- A satisfying value is there, and in every environment that gives it to the variable the
condition matches and nothing is reported. If there is no satisfying value, the condition matches in
no environment, whatever the variable has there. -/
theorem resolve_of_satisfying (c : Condition) :
    (∀ v, c.satisfying = .ok v → v.isAbsent = false ∧
      ∀ env p collector, env.get? c.variableName = some v →
        c.resolve env p collector = (.matched, collector)) ∧
    ∀ fault, c.satisfying = .error fault →
      ∀ env p collector, (c.resolve env p collector).1 ≠ .matched := by
  constructor
  · intro v found
    refine ⟨isAbsent_of_satisfying found, ?_⟩
    intro env p collector given
    have matched : c.outcome env = .matched :=
      (outcome_of_get? given).trans (Operator.outcome_satisfying c.usable found)
    rw [resolve_eq, matched, if_neg (by decide)]
  · intro fault missing env p collector
    rw [resolve_eq]
    exact Operator.outcome_ne_matched_of_satisfying missing (env.lookup c.variableName)

end RuleActivation.Condition
