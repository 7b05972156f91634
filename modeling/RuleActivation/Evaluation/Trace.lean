import RuleActivation.Evaluation.Collector

/-!
# Traces

A trace lists every leaf of a tree from left to right, with the kind of the value that it sees
and its outcome. A leaf that evaluation does not reach has no outcome.

## Main definitions

* `Trace`: the truth of a tree and its leaves
* `Node.traceWith`: the trace of a tree with a collector
* `Node.trace`, `Rule.trace`: the trace of a tree, or of a rule with its mismatches
-/

namespace RuleActivation

/-- The account of an evaluation. -/
structure Trace where
  activated : Bool
  leaves : List LeafRecord
  deriving DecidableEq, Repr

namespace Node

/-- The records of all leaves of a tree: those of the leaves that have been reached, which are found
by the texts of their positions, and records without an outcome for the others. -/
def traceLeaves (n : Node) (env : Environment) (reached : List LeafRecord) : List LeafRecord :=
  let byText := reached.map fun leaf => (leaf.position.text, leaf)
  n.leaves.map fun (p, c) => (byText.lookup p.text).getD (c.record env p none)

/-- The account of the evaluation of a tree, and the collector with its mismatches. -/
def traceWith (n : Node) (env : Environment) (collector : Collector) : Trace × Collector :=
  let (activated, progress) := n.walkAt env .root ⟨collector, some []⟩
  (⟨activated, n.traceLeaves env (progress.records.getD [])⟩, progress.collector)

/-- The account of the evaluation of a tree. -/
def trace (n : Node) (env : Environment) : Trace := (n.traceWith env {}).1

end Node

/-- The account of the evaluation of a rule, and its mismatches. -/
def Rule.trace (r : Rule) (env : Environment) : Trace × List Mismatch :=
  let (trace, collector) := r.tree.traceWith env (.forRule r.id)
  (trace, collector.mismatches)

end RuleActivation
