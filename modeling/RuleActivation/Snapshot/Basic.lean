import RuleActivation.Directory
import RuleActivation.Synthesis.Basic

/-!
# Snapshots

A snapshot records the boundary cases of every active rule, together with the digest of the
rule's definition at that time.

## Main definitions

* `RecordedCase`, `RuleRecord`, `Snapshot`: what is recorded
* `Snapshot.build`: the snapshot of a registry
* `Snapshot.toJson`, `Snapshot.encode`: its document and the text of it
-/

namespace RuleActivation

/-- A recorded case. Its environment is kept as JSON. -/
structure RecordedCase where
  label : CaseLabel
  environment : Json
  expected : Bool

/-- The recorded cases of one rule. -/
structure RuleRecord where
  id : Int64
  name : String
  title : String
  variableNames : List String
  fingerprint : String
  excluded : Option String
  cases : List RecordedCase
  unbuilt : List UnbuiltCase

/-- The recorded cases of some rules. -/
structure Snapshot where
  rules : List RuleRecord

/-- The number of the format in which snapshots are written. -/
def Snapshot.formatNumber : Nat := 1

/-! ## Equality -/

/-- Equality of recorded cases. -/
def RecordedCase.same (a b : RecordedCase) : Bool :=
  a.label == b.label && a.environment == b.environment && a.expected == b.expected

instance : BEq RecordedCase := ⟨RecordedCase.same⟩

/-- Equality of the records of two rules. -/
def RuleRecord.same (a b : RuleRecord) : Bool :=
  a.id == b.id && a.name == b.name && a.title == b.title && a.variableNames == b.variableNames &&
    a.fingerprint == b.fingerprint && a.excluded == b.excluded && a.cases == b.cases &&
    a.unbuilt == b.unbuilt

instance : BEq RuleRecord := ⟨RuleRecord.same⟩

instance : BEq Snapshot := ⟨fun a b => a.rules == b.rules⟩

/-! ## Building -/

/-- The record of a rule and its synthesis. -/
def RuleRecord.ofSynthesis (r : Rule) (s : Synthesis) : RuleRecord where
  id := r.id
  name := r.name
  title := r.title
  variableNames := r.variableNames
  fingerprint := r.tree.fingerprint
  excluded := s.excluded.map Exclusion.message
  cases := s.cases.map fun c => ⟨c.label, c.environment.toJson, c.expected⟩
  unbuilt := s.unbuilt

namespace Snapshot

/-- The snapshot of a registry: one record for every active rule, in order. -/
def build (registry : Registry) : Snapshot :=
  ⟨registry.activeRules.map fun r => .ofSynthesis r r.synthesize⟩

/-- The number of recorded cases. -/
def caseCount (s : Snapshot) : Nat := (s.rules.flatMap RuleRecord.cases).length

end Snapshot

/-! ## Writing -/

/-- The document of a recorded case. -/
def RecordedCase.toJson (c : RecordedCase) : Json :=
  .object [("label", .string c.label.text), ("environment", c.environment),
    ("expected", .bool c.expected)]

/-- The document of a case that could not be built. -/
def UnbuiltCase.toJson (u : UnbuiltCase) : Json :=
  .object [("label", .string u.label.text), ("reason", .string u.reason)]

/-- The document of a rule's record. The reason for an exclusion is written only if there is
one. -/
def RuleRecord.toJson (r : RuleRecord) : Json :=
  .object ([("id", .ofInt r.id.toInt), ("name", .string r.name), ("title", .string r.title),
      ("variables", .ofList .string r.variableNames), ("fingerprint", .string r.fingerprint)] ++
    (r.excluded.map fun reason => ("excluded", .string reason)).toList ++
    [("cases", .ofList RecordedCase.toJson r.cases),
      ("unsynthesizable", .ofList UnbuiltCase.toJson r.unbuilt)])

namespace Snapshot

/-- The document of a snapshot. -/
def toJson (s : Snapshot) : Json :=
  .object [("format", .ofNat formatNumber), ("rules", .ofList RuleRecord.toJson s.rules)]

/-- The text of a snapshot. -/
def encode (s : Snapshot) : String := s.toJson.pretty

/-- The text of a snapshot's file, which ends with a line end. -/
def fileText (s : Snapshot) : String := s.encode ++ "\n"

end Snapshot

end RuleActivation
