import RuleActivation.Evaluation.Trace
import RuleActivation.Proofs.Dictionary
import RuleActivation.Proofs.Evaluation.Reach
import RuleActivation.Proofs.Synthesis.Label

/-!
# What a walk over a tree reports

A walk adds to what it carries along the mismatches and the records of the leaves that it reaches,
one leaf after the other, and leaves in place what has been there before. From the records a trace
finds the outcome of each leaf that has been reached, since positions have different texts.

## Main definitions

* `Progress.after`: what the visits of leaves add to the progress of a walk

## Main results

* `Node.walkAt_eq`: a walk and the leaves that it visits
* `Node.traceLeaves_eq`: what a trace finds from the records of a walk
* `Node.evaluateWith_traceWith`: evaluation and trace against the meaning of a tree
-/

namespace RuleActivation

variable {env : Environment}

/-! ## Walks -/

/-- The record of a visit. -/
def Visit.record (env : Environment) (v : Visit) : LeafRecord :=
  v.condition.record env v.position (some v.outcome)

/-- The progress of a walk after further visits. -/
def Progress.after (progress : Progress) (env : Environment) (visits : List Visit) : Progress where
  collector :=
    { progress.collector with
      mismatches := progress.collector.mismatches ++
        visits.filterMap (·.mismatch? progress.collector.rule env) }
  records := progress.records.map (· ++ visits.map (·.record env))

theorem Progress.after_append (progress : Progress) (visits later : List Visit) :
    progress.after env (visits ++ later) = (progress.after env visits).after env later := by
  unfold after
  rw [List.filterMap_append, List.map_append, ← List.append_assoc, Option.map_map]
  congr 2
  funext records
  exact (List.append_assoc _ _ _).symm

namespace Node

theorem walkAt_leaf (c : Condition) (p : Position) (progress : Progress) :
    (leaf c).walkAt env p progress =
      ((c.outcome env).satisfied, progress.after env [⟨p, c, c.outcome env⟩]) := by
  rw [walkAt, Condition.resolve, Progress.after]
  cases outcome : c.outcome env <;>
    simp [Progress.record, Collector.report, Visit.record, Visit.mismatch?]

mutual

/-- A walk finds the truth of the tree and adds what the visited leaves add. -/
theorem walkAt_eq (n : Node) (p : Position) (progress : Progress) :
    n.walkAt env p progress =
      ((n.visitAt env p).1, progress.after env (n.visitAt env p).2) := by
  match n with
  | .leaf c => exact walkAt_leaf c p progress
  | .junction k cs => exact walkChildren_eq cs p k 0 progress

theorem walkChildren_eq (cs : Children) (p : Position) (k : Connective) (index : Nat)
    (progress : Progress) : walkChildren env p k index cs progress =
      ((visitChildren env p k index cs).1,
        progress.after env (visitChildren env p k index cs).2) := by
  match cs with
  | .one n => exact walkAt_eq n (p.child index) progress
  | .more n rest =>
    have first := walkAt_eq n (p.child index) progress
    have later := walkChildren_eq rest p k (index + 1)
    rw [walkChildren_more, visitChildren_more, first]
    by_cases decided : (n.visitAt env (p.child index)).1 = k.decisive
    · rw [if_pos decided, if_pos decided]
    · rw [if_neg decided, if_neg decided, later, Progress.after_append]

end

/-- Evaluation adds the mismatches of the tree to the collector. -/
theorem evaluateWith_eq (n : Node) (env : Environment) (collector : Collector) :
    n.evaluateWith env collector = (n.evaluate env,
      { collector with
        mismatches := collector.mismatches ++ n.mismatches collector.rule env }) := by
  rw [evaluateWith, walkAt_eq]
  rfl

/-! ## Traces -/

theorem traceWith_eq (n : Node) (env : Environment) (collector : Collector) :
    n.traceWith env collector =
      (⟨n.evaluate env, n.traceLeaves env ((n.visit env).2.map (·.record env))⟩,
        (n.evaluateWith env collector).2) := by
  rw [traceWith, walkAt_eq, evaluateWith_eq]
  rfl

/-- A trace finds the outcomes of the leaves that have been reached. -/
theorem traceLeaves_eq (n : Node) (env : Environment) :
    n.traceLeaves env ((n.visit env).2.map (·.record env)) = n.leaves.map fun (p, c) =>
      c.record env p (if n.Reaches env p then some (c.outcome env) else none) := by
  rw [visit_snd_eq, traceLeaves, List.map_map, List.map_map]
  apply List.map_congr_left
  rintro ⟨p, c⟩ mem
  dsimp only
  generalize found : List.lookup p.text _ = result
  cases result with
  | some leaf =>
    obtain ⟨⟨q, d⟩, there, same⟩ := List.mem_map.1 (Dictionary.mem_of_lookup_eq_some found)
    obtain ⟨text, rfl⟩ := Prod.mk.inj same
    obtain rfl : q = p := Position.text_injective text
    obtain ⟨mem', reached⟩ := List.mem_filter.1 there
    obtain rfl := mem_leaves_inj mem' mem
    rw [if_pos (of_decide_eq_true reached)]
    rfl
  | none =>
    have missed : ¬ n.Reaches env p := by
      intro reached
      have there : (p, c) ∈ n.leaves.filter fun leaf => n.Reaches env leaf.1 :=
        List.mem_filter.2 ⟨mem, decide_eq_true reached⟩
      have known := List.lookup_eq_none_iff.1 found _ (List.mem_map_of_mem there)
      simp [visitOf, Visit.record, Condition.record] at known
    rw [if_neg missed]
    rfl

/-- Evaluation and trace find the meaning of the tree, for any collector. The trace lists the leaves
of the tree, each once and in the order of their positions, with an outcome if and only if the leaf
is reached. Both add to the reports of the collector one for each leaf that is reached and whose
value is of a kind that it does not compare. -/
theorem evaluateWith_traceWith (n : Node) (env : Environment) (collector : Collector) :
    (((n.evaluateWith env collector).1 = true ↔ n.TrueIn env) ∧
      (n.traceWith env collector).1.activated = (n.evaluateWith env collector).1) ∧
    ((n.traceWith env collector).1.leaves = n.leaves.map (fun (p, c) =>
        ⟨p, c.variableName, c.operator, (env.lookup c.variableName).kind,
          if n.Reaches env p then some (c.outcome env) else none⟩) ∧
      (∀ p c, (p, c) ∈ n.leaves ↔ n.get? p = some (leaf c)) ∧
      n.leaves.Pairwise fun a b => a.1.indices < b.1.indices) ∧
    ((n.evaluateWith env collector).2 =
        { collector with
          mismatches := collector.mismatches ++
            (n.leaves.filter fun leaf =>
              n.Reaches env leaf.1 ∧ leaf.2.outcome env = .mismatch).map fun (p, c) =>
                ⟨collector.rule, c.variableName, p, c.operator, (env.lookup c.variableName).kind,
                  c.operator.comparableKinds c.literal⟩ } ∧
      (n.traceWith env collector).2 = (n.evaluateWith env collector).2) := by
  rw [traceWith_eq, evaluateWith_eq, mismatches_eq, traceLeaves_eq]
  refine ⟨⟨evaluate_iff_trueIn, rfl⟩, ⟨rfl, ?_, pairwise_leaves_lt n⟩, rfl, rfl⟩
  intro p c
  exact mem_leaves_iff

end Node

end RuleActivation
