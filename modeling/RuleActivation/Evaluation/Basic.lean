import RuleActivation.Evaluation.Outcome
import RuleActivation.Rule.Basic

/-!
# Evaluation

A tree is evaluated from left to right and no further than needed: a child that is decisive for
its node ends the evaluation of the node. The leaves that are reached are recorded with their
outcomes; a mismatch among them is reported to the caller.

## Main definitions

* `Visit`: a leaf that evaluation reaches, and its outcome
* `Node.visit`: evaluation with its visits
* `Node.evaluate`, `Node.mismatches`: its two parts
* `Rule.evaluate`: whether a rule is activated
-/

namespace RuleActivation

/-- A leaf that evaluation reaches. -/
structure Visit where
  position : Position
  condition : Condition
  outcome : Outcome

/-- The report of a value whose kind its condition does not compare. -/
structure Mismatch where
  rule : Option Int64
  variableName : String
  position : Position
  operator : Operator
  observed : Kind
  expected : List Kind
  deriving DecidableEq, Repr

/-- The report of a visit, if its outcome is a mismatch. -/
def Visit.mismatch? (rule : Option Int64) (env : Environment) (visit : Visit) :
    Option Mismatch :=
  if visit.outcome = .mismatch then
    some ⟨rule, visit.condition.variableName, visit.position, visit.condition.operator,
      (env.lookup visit.condition.variableName).kind,
      visit.condition.operator.comparableKinds visit.condition.literal⟩
  else none

/-! ## Trees -/

namespace Node

section

variable (env : Environment)

mutual

/-- The truth of a tree at a position, and the leaves that have been reached. -/
def visitAt (p : Position) : Node → Bool × List Visit
  | .leaf c => ((c.outcome env).satisfied, [⟨p, c, c.outcome env⟩])
  | .junction k cs => visitChildren p k 0 cs

/-- The truth of the children from an index on under a connective, and the leaves that have been
reached. The children after a decisive one are not reached. -/
def visitChildren (p : Position) (k : Connective) (index : Nat) :
    Children → Bool × List Visit
  | .one n => n.visitAt (p.child index)
  | .more n rest =>
    let (truth, visits) := n.visitAt (p.child index)
    if truth = k.decisive then (truth, visits)
    else
      let (others, later) := visitChildren p k (index + 1) rest
      (others, visits ++ later)

end

theorem visitChildren_more (p : Position) (k : Connective) (index : Nat) (n : Node)
    (rest : Children) :
    visitChildren env p k index (.more n rest) =
      if (n.visitAt env (p.child index)).1 = k.decisive then n.visitAt env (p.child index)
      else ((visitChildren env p k (index + 1) rest).1,
        (n.visitAt env (p.child index)).2 ++ (visitChildren env p k (index + 1) rest).2) := rfl

end

/-- The truth of a tree, and the leaves that have been reached. -/
def visit (n : Node) (env : Environment) : Bool × List Visit := n.visitAt env .root

/-- The truth of a tree in an environment. -/
def evaluate (n : Node) (env : Environment) : Bool := (n.visit env).1

/-- The mismatches among the leaves that have been reached, in order. -/
def mismatches (n : Node) (rule : Option Int64) (env : Environment) : List Mismatch :=
  (n.visit env).2.filterMap (·.mismatch? rule env)

end Node

/-! ## Rules -/

/-- Whether a rule is activated in an environment. -/
def Rule.evaluate (r : Rule) (env : Environment) : Bool := r.tree.evaluate env

end RuleActivation
