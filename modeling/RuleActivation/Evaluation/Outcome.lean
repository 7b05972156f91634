import RuleActivation.Environment
import RuleActivation.Rule.Node

/-!
# Outcomes

What becomes of one condition in an environment. An absent value satisfies the demand to be equal
to `false` and nothing else. A value of a kind that the operator does not compare with the
literal is a mismatch, which fails.

## Main definitions

* `Outcome`: the outcomes of a condition
* `Operator.outcome`: comparing a value with a literal
* `Condition.outcome`: a condition in an environment
-/

namespace RuleActivation

/-- What becomes of a condition. -/
inductive Outcome where
  | matched
  | notMatched
  | absent (satisfied : Bool)
  | mismatch
  deriving DecidableEq, Repr

/-- Whether an outcome satisfies the condition. -/
def Outcome.satisfied : Outcome → Bool
  | matched => true
  | absent satisfied => satisfied
  | notMatched | mismatch => false

/-- Whether an operator and a literal demand to be false. -/
def Operator.demandsFalse (op : Operator) (literal : Value) : Bool :=
  op == equals && literal == .bool false

/-- The outcome of comparing a value with a literal. Absence comes first: it is never a mismatch. -/
def Operator.outcome (op : Operator) (value literal : Value) : Outcome :=
  if value.isAbsent then .absent (op.demandsFalse literal)
  else if !op.compares value literal then .mismatch
  else if op.holds value literal then .matched
  else .notMatched

/-- The outcome of a condition in an environment. -/
def Condition.outcome (c : Condition) (env : Environment) : Outcome :=
  c.operator.outcome (env.lookup c.variableName) c.literal

end RuleActivation
