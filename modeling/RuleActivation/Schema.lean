import RuleActivation.Binary64.Basic
import RuleActivation.Json.Printer
import RuleActivation.Operator

/-!
# The schema of rule documents

The structure that a rule document has to have, whatever its rules mean. All problems of a
document are listed: at the document itself, then rule by rule, where the properties that are
missing come before those that are there. A tree is either right as a whole or wrong as a whole.

## Main definitions

* `Schema.Problem`: what is wrong with a part of a document
* `Schema.isNode`: whether a value has the structure of a tree
* `Schema.problems`: the problems of a document
-/

namespace RuleActivation.Schema

/-- What is wrong with a part of a document. -/
inductive Problem where
  | wrongType (part : Json) (wanted : String)
  | missingProperty (name : String)
  | tooShort (part : Json)
  | noAlternative (part : Json)

/-- The text of a problem. -/
def Problem.message : Problem → String
  | wrongType part wanted => part.compact ++ " is not of type \"" ++ wanted ++ "\""
  | missingProperty name => (Json.string name).compact ++ " is a required property"
  | tooShort part => part.compact ++ " is shorter than 1 character"
  | noAlternative part =>
    part.compact ++ " is not valid under any of the schemas listed in the 'oneOf' keyword"

/-! ## Trees -/

/-- Whether a value is a truth value, a number or a string. -/
def isScalar : Json → Bool
  | .bool _ | .number _ | .string _ => true
  | _ => false

/-- Whether a value can be the literal of a condition. -/
def isLiteral : Json → Bool
  | .array items => items.all isScalar
  | v => isScalar v

/-- Whether a member may stand in a condition. -/
def isConditionMember : String × Json → Bool
  | ("type", v) => v.asText? == some "condition"
  | ("variable", .string s) => s != ""
  | ("operator", .string s) => (Operator.ofName? s).isSome
  | ("value", v) => isLiteral v
  | _ => false

/-- Whether some members make a condition. -/
def isCondition (members : List (String × Json)) : Bool :=
  ["type", "variable", "operator", "value"].all (fun key => (members.lookup key).isSome) &&
    members.all isConditionMember

/-- Whether a value is the type of a node with children. -/
def isJunctionType (v : Json) : Bool := v.asText? == some "and" || v.asText? == some "or"

mutual

/-- Whether a value is a tree. The two alternatives exclude each other by their type. -/
def isNode : Json → Bool
  | .object members =>
    isCondition members ||
      (["type", "children"].all (fun key => (members.lookup key).isSome) &&
        areJunctionMembers members)
  | _ => false

/-- Whether all members may stand in a node with children. -/
def areJunctionMembers : List (String × Json) → Bool
  | [] => true
  | (key, v) :: rest =>
    (if key = "children" then
      match v with
      | .array items => !items.isEmpty && areNodes items
      | _ => false
    else key == "type" && isJunctionType v) && areJunctionMembers rest

/-- Whether all items of a list are trees. -/
def areNodes : List Json → Bool
  | [] => true
  | v :: vs => isNode v && areNodes vs

end

/-! ## Rules and documents -/

/-- A problem, unless a check succeeds. -/
def ensure (ok : Bool) (problem : Problem) : List Problem := if ok then [] else [problem]

/-- Whether a number is an integer after it has been rounded to a binary one. A number that is out
of range has no fraction left. -/
def isInteger (n : Json.Number) : Bool := (Binary64.ofNumber? n).elim true (·.isInteger)

/-- The problems of an identity number. -/
def integerProblems (v : Json) : List Problem :=
  ensure (match v with
    | .number n => isInteger n
    | _ => false) (.wrongType v "integer")

/-- The problems of a text. -/
def textProblems (v : Json) : List Problem := ensure v.asText?.isSome (.wrongType v "string")

/-- The problems of a name. -/
def nameProblems (v : Json) : List Problem :=
  textProblems v ++ ensure (v.asText? != some "") (.tooShort v)

/-- The problems of a truth value. -/
def boolProblems (v : Json) : List Problem := ensure v.asBool?.isSome (.wrongType v "boolean")

/-- The problems of a tree. -/
def nodeProblems (v : Json) : List Problem := ensure (isNode v) (.noAlternative v)

/-- The properties of a rule that are always there, in the order in which their absence is
listed. -/
def requiredProperties : List String := ["id", "name", "title", "ast"]

/-- The properties of a rule that are checked, in the order in which they are. -/
def propertyChecks : List (String × (Json → List Problem)) :=
  [("active", boolProblems), ("ast", nodeProblems), ("id", integerProblems),
    ("name", nameProblems), ("title", textProblems)]

/-- The problems of a rule. -/
def ruleProblems (v : Json) : List Problem :=
  match v with
  | .object members =>
    (requiredProperties.filter fun name => (members.lookup name).isNone).map .missingProperty ++
      propertyChecks.flatMap fun (name, check) => (members.lookup name).elim [] check
  | _ => [.wrongType v "object"]

/-- The problems of the list of rules. -/
def rulesProblems (v : Json) : List Problem :=
  match v with
  | .array items => items.flatMap ruleProblems
  | _ => [.wrongType v "array"]

/-- The problems of a document. -/
def problems (v : Json) : List Problem :=
  match v with
  | .object members => (members.lookup "rules").elim [.missingProperty "rules"] rulesProblems
  | _ => [.wrongType v "object"]

end RuleActivation.Schema
