import RuleActivation.Boundary
import RuleActivation.Evaluation.Basic
import RuleActivation.Registry
import RuleActivation.Synthesis.Label

/-!
# Synthesis of boundary cases

From a rule's baseline, an environment of satisfying values of its leaves, one case is derived for
each leaf by negating the leaf's variable, and one by removing it. What a case expects is always
what evaluation says of its environment.

## Main definitions

* `BoundaryCase`, `UnbuiltCase`, `Synthesis`: the outcome of a synthesis
* `Rule.baseline`: the environment from which cases are derived
* `Rule.synthesize`: the cases of a rule
* `Registry.synthesize`, `Registry.synthesizeIn`: the cases of all active rules, at once or
  spread over workers
-/

namespace RuleActivation

/-! ## Results -/

/-- A case: an environment and what evaluation says of it. -/
structure BoundaryCase where
  rule : Int64
  label : CaseLabel
  environment : Environment
  expected : Bool

/-- A case that cannot be built. -/
structure UnbuiltCase where
  label : CaseLabel
  reason : String
  deriving DecidableEq, Repr

/-- Why a rule has no cases. -/
inductive Exclusion where
  | unsatisfied
  deriving DecidableEq, Repr

/-- The text of an exclusion. -/
def Exclusion.message : Exclusion → String
  | unsatisfied => "no environment satisfying every leaf satisfies the rule"

/-- The outcome of the synthesis for one rule. -/
structure Synthesis where
  rule : Int64
  cases : List BoundaryCase
  unbuilt : List UnbuiltCase
  excluded : Option Exclusion

/-- Whether every planned case has been built. -/
def Synthesis.isComplete (s : Synthesis) : Bool :=
  s.excluded.isNone && s.unbuilt.isEmpty

/-! ## The baseline -/

/-- Whether a value compares with a condition's literal, and the comparison holds. -/
def Condition.holds (c : Condition) (value : Value) : Bool :=
  c.operator.compares value c.literal && c.operator.holds value c.literal

/-- A value for a variable on which there are given conditions: the first of their satisfying
values for which all of them hold, or else the first. -/
def candidate? (conditions : List Condition) : Option Value :=
  let candidates := conditions.filterMap fun c => c.satisfying.toOption
  (candidates.find? fun value => conditions.all (·.holds value)).or candidates.head?

namespace Node

/-- The conditions of a tree on one variable. -/
def conditionsOn (n : Node) (name : String) : List Condition :=
  (n.leaves.map Prod.snd).filter (·.variableName == name)

/-- The environment that gives every variable its candidate, if it has one. -/
def candidates (n : Node) : Environment :=
  n.variableNames.foldl
    (fun env name => (candidate? (n.conditionsOn name)).elim env (env.insert name ·)) ∅

end Node

namespace Rule

/-- The environment from which the cases of a rule are derived, if it satisfies the rule. -/
def baseline (r : Rule) : Except Exclusion Environment :=
  let env := r.tree.candidates
  if r.evaluate env then .ok env else .error .unsatisfied

/-! ## Cases -/

/-- The case of a label and an environment. -/
def caseOf (r : Rule) (label : CaseLabel) (env : Environment) : BoundaryCase :=
  ⟨r.id, label, env, r.evaluate env⟩

/-- The case that negates a leaf, or why there is none. -/
def negativeCase (r : Rule) (baseline : Environment) (leaf : Position × Condition) :
    Except UnbuiltCase BoundaryCase :=
  match leaf.2.negative with
  | .ok value =>
    .ok (r.caseOf (.negativeLeaf leaf.1) (baseline.insert leaf.2.variableName value))
  | .error fault => .error ⟨.negativeLeaf leaf.1, fault.message⟩

/-- The case that removes the variable of a leaf. -/
def nullCase (r : Rule) (baseline : Environment) (leaf : Position × Condition) : BoundaryCase :=
  r.caseOf (.nullLeaf leaf.1) (baseline.erase leaf.2.variableName)

/-- The error of a result. -/
def error? {ε α : Type} : Except ε α → Option ε
  | .error e => some e
  | .ok _ => none

/-- The boundary cases of a rule: the baseline, the negated leaves, the removed ones. -/
def synthesize (r : Rule) : Synthesis :=
  match r.baseline with
  | .error exclusion => ⟨r.id, [], [], some exclusion⟩
  | .ok env =>
    let negatives := r.tree.leaves.map (r.negativeCase env)
    { rule := r.id
      cases := r.caseOf .positiveAll env ::
        (negatives.filterMap Except.toOption ++ r.tree.leaves.map (r.nullCase env))
      unbuilt := negatives.filterMap error?
      excluded := none }

end Rule

/-! ## Registries -/

/-- The parts of a list, each of `size` elements but perhaps the last; `fuel` bounds their
number. -/
def chunks {α : Type} (size : Nat) : (fuel : Nat) → List α → List (List α)
  | 0, _ => []
  | _, [] => []
  | fuel + 1, xs => xs.take size :: chunks size fuel (xs.drop size)

namespace Registry

/-- The cases of every active rule, in order. -/
def synthesize (registry : Registry) : List Synthesis :=
  registry.activeRules.map Rule.synthesize

/-- The cases of every active rule, where each of the workers takes its part of the rules. The
number of rules for a worker is rounded up. -/
def synthesizeIn (registry : Registry) (workers : Nat) : List Synthesis :=
  let rules := registry.activeRules
  let size := (rules.length + (max workers 1 - 1)) / max workers 1
  (chunks size rules.length rules).flatMap fun part => part.map Rule.synthesize

end Registry

end RuleActivation
