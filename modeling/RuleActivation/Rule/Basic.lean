import RuleActivation.Rule.Node

/-!
# Rules

A rule is a tree with an identity: a number, a name for machines and a title for people. Rules
can be switched off.

## Main definitions

* `Rule`: rules
* `Rule.variableNames`: the variables of a rule
* `Rule.toJson`: the definition of a rule
-/

namespace RuleActivation

/-- A rule that decides whether something is activated. -/
structure Rule where
  id : Int64
  name : String
  title : String
  active : Bool
  tree : Node

namespace Rule

/-- The variables of a rule in the order of their first occurrence. -/
def variableNames (r : Rule) : List String := r.tree.variableNames

/-- The definition of a rule. -/
def toJson (r : Rule) : Json :=
  .object [("active", .bool r.active), ("ast", r.tree.toJson), ("id", .ofInt r.id.toInt),
    ("name", .string r.name), ("title", .string r.title)]

end Rule

end RuleActivation
