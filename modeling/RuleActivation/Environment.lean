import RuleActivation.Dictionary
import RuleActivation.Value.Normalize

/-!
# Environments

An environment gives the variables of a case their values. A variable that is not given looks
like one whose value is missing.

## Main definitions

* `Environment`: the values of variables
* `Environment.lookup`: the value of a variable, given or not
* `Environment.ofJson`, `Environment.toJson`: the environment of a JSON object, and back
-/

namespace RuleActivation

/-- The values of the variables of a case. -/
abbrev Environment := Dictionary Value

namespace Environment

/-- Why a JSON value is no environment. -/
inductive Fault where
  | notAnObject (typeName : String)
  deriving DecidableEq, Repr

/-- The text of a fault. -/
def Fault.message : Fault → String
  | notAnObject typeName => "environment must be a JSON object, got " ++ typeName

/-- The value of a variable; that of one that is not given is missing. -/
def lookup (env : Environment) (name : String) : Value :=
  (env.get? name).getD (.absent .missing)

/-- The environment of a JSON object. -/
def ofJson : Json → Except Fault Environment
  | .object members => .ok (Dictionary.ofList (members.map fun (k, v) => (k, Value.ofJson v)))
  | v => .error (.notAnObject v.typeName)

/-- The JSON object of an environment. -/
def toJson (env : Environment) : Json :=
  .object (env.entries.map fun (k, v) => (k, v.toJson))

@[simp] theorem lookup_insert (env : Environment) (key other : String) (value : Value) :
    lookup (env.insert key value) other = if other = key then value else env.lookup other := by
  rw [lookup, Dictionary.get?_insert]
  split <;> rfl

@[simp] theorem lookup_erase (env : Environment) (key other : String) :
    lookup (env.erase key) other =
      if other = key then .absent .missing else env.lookup other := by
  rw [lookup, Dictionary.get?_erase]
  split <;> rfl

end Environment

end RuleActivation
