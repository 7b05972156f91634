import RuleActivation.Evaluation.Basic
import RuleActivation.Registry

/-!
# Evaluation with a collector

Mismatches are reported to a collector, which may hold the reports of earlier evaluations. A walk
over a tree carries the collector along, and also the records of the leaves that it reaches, if
they are asked for.

## Main definitions

* `Collector`: the reports that have been made
* `LeafRecord`: what is recorded of a leaf
* `Node.walkAt`: the walk over a tree
* `Node.evaluateWith`: evaluation with a collector
* `Rule.activation`, `Registry.activations`: the decision on a rule, or on all active rules
-/

namespace RuleActivation

/-! ## Reports and records -/

/-- The mismatches that have been reported, and the rule on behalf of which they are. -/
structure Collector where
  rule : Option Int64 := none
  mismatches : List Mismatch := []
  deriving DecidableEq, Repr

namespace Collector

/-- The collector of a rule without reports. -/
def forRule (rule : Int64) : Collector := ⟨some rule, []⟩

/-- The collector after the report of a condition at a position whose value is of a kind that it
does not compare. -/
def report (collector : Collector) (p : Position) (c : Condition) (observed : Kind) : Collector :=
  { collector with
    mismatches := collector.mismatches ++ [⟨collector.rule, c.variableName, p, c.operator, observed,
      c.operator.comparableKinds c.literal⟩] }

end Collector

/-- A leaf of a tree with the kind of the value that it sees, and its outcome if it is reached. -/
structure LeafRecord where
  position : Position
  variableName : String
  operator : Operator
  observed : Kind
  outcome : Option Outcome
  deriving DecidableEq, Repr

namespace Condition

variable (c : Condition) (env : Environment) (p : Position)

/-- The record of a condition at a position. -/
def record (outcome : Option Outcome) : LeafRecord :=
  ⟨p, c.variableName, c.operator, (env.lookup c.variableName).kind, outcome⟩

/-- The outcome of a condition at a position, and the collector, to which a mismatch is reported. -/
def resolve (collector : Collector) : Outcome × Collector :=
  match c.outcome env with
  | .mismatch => (.mismatch, collector.report p c (env.lookup c.variableName).kind)
  | outcome => (outcome, collector)

end Condition

/-! ## Trees -/

/-- What a walk carries along: the collector, and the records of the leaves that have been reached
if they are asked for. -/
structure Progress where
  collector : Collector
  records : Option (List LeafRecord)

/-- The progress after a leaf has been recorded. -/
def Progress.record (progress : Progress) (leaf : LeafRecord) : Progress :=
  { progress with records := progress.records.map (· ++ [leaf]) }

namespace Node

section

variable (env : Environment)

mutual

/-- The truth of a tree at a position, and the progress of the walk over it. -/
def walkAt (p : Position) : Node → Progress → Bool × Progress
  | .leaf c, progress =>
    let (outcome, collector) := c.resolve env p progress.collector
    (outcome.satisfied,
      { progress with collector := collector }.record (c.record env p (some outcome)))
  | .junction k cs, progress => walkChildren p k 0 cs progress

/-- The truth of the children from an index on under a connective, and the progress of the walk over
them. -/
def walkChildren (p : Position) (k : Connective) (index : Nat) :
    Children → Progress → Bool × Progress
  | .one n, progress => n.walkAt (p.child index) progress
  | .more n rest, progress =>
    let (truth, progress) := n.walkAt (p.child index) progress
    if truth = k.decisive then (truth, progress)
    else walkChildren p k (index + 1) rest progress

end

theorem walkChildren_more (p : Position) (k : Connective) (index : Nat) (n : Node)
    (rest : Children) (progress : Progress) :
    walkChildren env p k index (.more n rest) progress =
      if (n.walkAt env (p.child index) progress).1 = k.decisive then
        n.walkAt env (p.child index) progress
      else walkChildren env p k (index + 1) rest (n.walkAt env (p.child index) progress).2 := rfl

end

/-- The truth of a tree, and the collector with the mismatches of the leaves that have been
reached. -/
def evaluateWith (n : Node) (env : Environment) (collector : Collector) : Bool × Collector :=
  let (truth, progress) := n.walkAt env .root ⟨collector, none⟩
  (truth, progress.collector)

end Node

/-! ## Rules -/

/-- The decision on a rule. -/
structure Activation where
  rule : Int64
  name : String
  activated : Bool
  mismatches : List Mismatch
  deriving DecidableEq, Repr

/-- The decision on a rule in an environment. -/
def Rule.activation (r : Rule) (env : Environment) : Activation :=
  let (activated, collector) := r.tree.evaluateWith env (.forRule r.id)
  ⟨r.id, r.name, activated, collector.mismatches⟩

/-- The decisions on the active rules, in order. -/
def Registry.activations (registry : Registry) (env : Environment) : List Activation :=
  registry.activeRules.map (·.activation env)

end RuleActivation
