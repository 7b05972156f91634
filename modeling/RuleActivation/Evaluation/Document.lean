import RuleActivation.Evaluation.Trace

/-!
# Documents of an evaluation

Decisions, mismatches and traces as JSON.

## Main definitions

* `Mismatch.toJson`, `Activation.toJson`, `LeafRecord.toJson`: the JSON documents
-/

namespace RuleActivation

/-- The JSON document of a mismatch. -/
def Mismatch.toJson (m : Mismatch) : Json :=
  .object [("rule_id", .ofOption (.ofInt ·.toInt) m.rule), ("variable", .string m.variableName),
    ("path", .string m.position.text), ("operator", .string m.operator.name),
    ("observed", .string m.observed.name),
    ("expected", .ofList (.string ·.name) m.expected)]

/-- The JSON document of a decision. -/
def Activation.toJson (a : Activation) : Json :=
  .object [("rule_id", .ofInt a.rule.toInt), ("name", .string a.name),
    ("activated", .bool a.activated), ("diagnostics", .ofList Mismatch.toJson a.mismatches)]

/-- The JSON document of an outcome. -/
def Outcome.toJson : Outcome → Json
  | matched => .string "matched"
  | notMatched => .string "not_matched"
  | absent satisfied => .object [("absent", .object [("satisfied", .bool satisfied)])]
  | mismatch => .string "type_mismatch"

/-- The JSON document of a leaf of a trace. -/
def LeafRecord.toJson (r : LeafRecord) : Json :=
  .object [("path", .string r.position.text), ("variable", .string r.variableName),
    ("operator", .string r.operator.name), ("observed", .string r.observed.name),
    ("outcome", .ofOption Outcome.toJson r.outcome)]

end RuleActivation
