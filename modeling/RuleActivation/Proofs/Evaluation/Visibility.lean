import RuleActivation.Proofs.Evaluation.Agreement
import RuleActivation.Proofs.Evaluation.Trace
import RuleActivation.Proofs.Success
import RuleActivation.Proofs.Synthesis.Cases

/-!
# What evaluation sees

Evaluation sees no more of an environment than the values of the variables that occur in the tree,
and no more of an absent value than that it is absent. Decisions, mismatches and traces are
therefore the same in two environments that agree on these variables, although one may lack a key
that the other one has.

## Main definitions

* `Environment.AgreesOn`: environments that agree on some variables

## Main results

* `Node.Related.evaluateWith_eq`, `Node.Related.traceWith_eq`: trees with leaves that look the same
* `Rule.decisions_eq_of_agreesOn`: only the variables of a rule matter
-/

namespace RuleActivation

open List (Forall₂)

/-! ## Walks over related trees -/

section

variable {env env' : Environment}

theorem Condition.Alike.record_eq {c d : Condition} (h : c.Alike env env' d) (p : Position)
    (outcome : Option Outcome) : c.record env p outcome = d.record env' p outcome := by
  rw [record, record, h.variableName, h.operator, ← h.variableName, h.observed, h.variableName]

theorem Visit.Alike.record_eq {v w : Visit} (h : v.Alike env env' w) :
    v.record env = w.record env' := by
  rw [record, record, h.position, h.outcome, h.condition.record_eq]

namespace Node

variable {m n : Node}

/-- Trees with leaves that look the same report the same to any collector. -/
theorem Related.evaluateWith_eq (h : Related (Condition.Alike env env') m n)
    (collector : Collector) : m.evaluateWith env collector = n.evaluateWith env' collector := by
  rw [Node.evaluateWith_eq, Node.evaluateWith_eq, h.evaluate_eq, h.mismatches_eq]

theorem Related.records_eq (h : Related (Condition.Alike env env') m n) :
    (m.visit env).2.map (·.record env) = (n.visit env').2.map (·.record env') := by
  have visits : Forall₂ (Visit.Alike env env') (m.visit env).2 (n.visit env').2 :=
    (h.visitAt .root).2
  exact map_eq_map_of_forall₂ (visits.imp fun _ _ alike => alike.record_eq)

theorem Related.traceLeaves_eq (h : Related (Condition.Alike env env') m n)
    (reached : List LeafRecord) : m.traceLeaves env reached = n.traceLeaves env' reached := by
  rw [traceLeaves, traceLeaves]
  refine map_eq_map_of_forall₂ (h.leaves.imp ?_)
  rintro ⟨p, c⟩ ⟨q, d⟩ ⟨place, alike⟩
  obtain rfl : p = q := place
  dsimp only
  rw [alike.record_eq p none]

/-- Trees with leaves that look the same have the same trace. -/
theorem Related.traceWith_eq (h : Related (Condition.Alike env env') m n)
    (collector : Collector) : m.traceWith env collector = n.traceWith env' collector := by
  rw [Node.traceWith_eq, Node.traceWith_eq, h.evaluate_eq, h.records_eq, h.traceLeaves_eq,
    h.evaluateWith_eq]

end Node

end

/-! ## Environments that agree on the variables of a tree -/

/-- Two environments agree on the given variables: each of them has equal values, or is absent from
both for whatever reasons. -/
def Environment.AgreesOn (names : List String) (env env' : Environment) : Prop :=
  ∀ name ∈ names, (env.lookup name).LooksLike (env'.lookup name)

instance (names : List String) (env env' : Environment) : Decidable (env.AgreesOn names env') :=
  inferInstanceAs (Decidable (∀ name ∈ names, _))

/-- To the leaves of a tree, environments look the same that agree on its variables. -/
theorem Node.related_of_agreesOn {n : Node} {env env' : Environment}
    (h : env.AgreesOn n.variableNames env') : n.Related (Condition.Alike env env') n := by
  apply (related_refl n).of_leaves
  rw [List.forall₂_same]
  intro leaf mem
  apply Condition.alike_of_looksLike
  · exact Condition.beq_iff.2 ⟨rfl, rfl, BEq.refl _⟩
  · exact h _ (mem_variableNames.2 ⟨leaf, mem, rfl⟩)

namespace Rule

/-- Only the variables of a rule matter to it, and all absences look alike: in environments that
agree on these variables the decision is the same, with the same mismatches, and every leaf is
recorded in the same way. -/
theorem decisions_eq_of_agreesOn {r : Rule} {env env' : Environment}
    (h : env.AgreesOn r.variableNames env') :
    r.evaluate env = r.evaluate env' ∧ r.activation env = r.activation env' ∧
      r.trace env = r.trace env' := by
  have alike : r.tree.Related (Condition.Alike env env') r.tree := Node.related_of_agreesOn h
  refine ⟨alike.evaluate_eq, ?_, ?_⟩
  · rw [activation, activation, alike.evaluateWith_eq]
  · rw [trace, trace, alike.traceWith_eq]

/-- The definition of a rule whose leaves are reached or not, depending on which values are
there. -/
def absentDefinition : Json :=
  .object [("id", .ofNat 1), ("name", .string "a"), ("title", .string "t"),
    ("ast", .object [("type", .string "or"), ("children", .array [
      .object [("type", .string "condition"), ("variable", .string "x"),
        ("operator", .string "equals"), ("value", .bool true)],
      .object [("type", .string "condition"), ("variable", .string "y"),
        ("operator", .string "contains"), ("value", .string "a")],
      .object [("type", .string "condition"), ("variable", .string "z"),
        ("operator", .string "equals"), ("value", .bool false)],
      .object [("type", .string "condition"), ("variable", .string "w"),
        ("operator", .string "equals"), ("value", .bool true)]])])]

theorem decisions_eq_of_agreesOn_absent :
    ∃ r env env', Rule.ofJson absentDefinition = .ok r ∧
      Environment.ofJson (.object [("x", .object []), ("y", .number ⟨false, 1, [5, 0], none⟩),
        ("other", .bool true)]) = .ok env ∧
      Environment.ofJson (.object [("y", .number ⟨false, 1, [5], none⟩), ("z", .null),
        ("w", .null)]) = .ok env' ∧
      env.AgreesOn r.variableNames env' ∧
      r.evaluate env = r.evaluate env' ∧ r.activation env = r.activation env' ∧
      r.trace env = r.trace env' :=
  ⟨_, _, _, rfl, rfl, rfl, by decide, decisions_eq_of_agreesOn (by decide)⟩

end Rule

end RuleActivation
