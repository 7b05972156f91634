import RuleActivation.Snapshot.Reading

/-!
# Reading snapshots

The shape of a snapshot's document: a snapshot, its rules and their cases are records. Of the
fields of a rule, `excluded` and `unbuilt` may be missing. The environment of a case may be any
JSON value.

## Main definitions

* `RecordedCase.read`, `UnbuiltCase.read`, `RuleRecord.read`, `Snapshot.read`: the readers
* `Snapshot.decode`, `Snapshot.ofFile`: the snapshot of a text, or of a file
-/

namespace RuleActivation

/-! ## Cases -/

/-- The label of a case. One that cannot be read is noticed when its record would end. -/
def Reader.label (form : RecordForm) : Reader CaseLabel := do
  match CaseLabel.parse (← Reader.text) with
  | .ok label => return label
  | .error fault => form.refuse (.label fault)

/-- The number of containers that may be open within an environment. Around it there are five: the
snapshot, its rules, a rule, its cases, and a case. -/
def environmentDepth : Nat := Json.depthLimit - 5

/-- The fields of a recorded case that have been read. -/
structure RecordedCase.Partial where
  label : Option CaseLabel := none
  environment : Option Json := none
  expected : Option Bool := none

/-- The type of recorded cases. -/
def RecordedCase.recordType : RecordType :=
  ⟨"SnapshotCase", ["label", "environment", "expected"]⟩

/-- Reads one field of a recorded case. -/
def RecordedCase.Partial.field (form : RecordForm) (p : RecordedCase.Partial) :
    String → Reader RecordedCase.Partial
  | "label" => do return { p with label := some (← Reader.label form) }
  | "environment" => do
    return { p with environment := some (← Reader.value (.full environmentDepth)).canonical }
  | "expected" => do return { p with expected := some (← Reader.bool) }
  | _ => return p

/-- The recorded case of the fields that have been read. -/
def RecordedCase.Partial.finish (form : RecordForm) (p : RecordedCase.Partial) :
    Reader RecordedCase := do
  let type := RecordedCase.recordType
  let label ← type.need form "label" p.label
  let environment ← type.need form "environment" p.environment
  let expected ← type.need form "expected" p.expected
  return ⟨label, environment, expected⟩

/-- Reads a recorded case. -/
def RecordedCase.read : Reader RecordedCase :=
  RecordedCase.recordType.read {} RecordedCase.Partial.field RecordedCase.Partial.finish

/-- The fields that have been read of a case that could not be built. -/
structure UnbuiltCase.Partial where
  label : Option CaseLabel := none
  reason : Option String := none

/-- The type of cases that could not be built. -/
def UnbuiltCase.recordType : RecordType := ⟨"Unsynthesizable", ["label", "reason"]⟩

/-- Reads one field of a case that could not be built. -/
def UnbuiltCase.Partial.field (form : RecordForm) (p : UnbuiltCase.Partial) :
    String → Reader UnbuiltCase.Partial
  | "label" => do return { p with label := some (← Reader.label form) }
  | "reason" => do return { p with reason := some (← Reader.text) }
  | _ => return p

/-- The case that could not be built, of the fields that have been read. -/
def UnbuiltCase.Partial.finish (form : RecordForm) (p : UnbuiltCase.Partial) :
    Reader UnbuiltCase := do
  let type := UnbuiltCase.recordType
  let label ← type.need form "label" p.label
  let reason ← type.need form "reason" p.reason
  return ⟨label, reason⟩

/-- Reads a case that could not be built. -/
def UnbuiltCase.read : Reader UnbuiltCase :=
  UnbuiltCase.recordType.read {} UnbuiltCase.Partial.field UnbuiltCase.Partial.finish

/-! ## Rules -/

/-- The fields of a rule's record that have been read. -/
structure RuleRecord.Partial where
  id : Option Int64 := none
  name : Option String := none
  title : Option String := none
  variableNames : Option (List String) := none
  fingerprint : Option String := none
  excluded : Option (Option String) := none
  cases : Option (List RecordedCase) := none
  unbuilt : Option (List UnbuiltCase) := none

/-- The type of rules' records. -/
def RuleRecord.recordType : RecordType :=
  ⟨"RuleSnapshot", ["id", "name", "title", "variables", "fingerprint", "excluded", "cases",
    "unsynthesizable"]⟩

/-- The number of a rule. -/
def Reader.ruleId : Reader Int64 :=
  Int64.ofInt <$> Reader.integer Int64.minValue.toInt Int64.maxValue.toInt "i64"

/-- Reads one field of a rule's record. -/
def RuleRecord.Partial.field (p : RuleRecord.Partial) : String → Reader RuleRecord.Partial
  | "id" => do return { p with id := some (← Reader.ruleId) }
  | "name" => do return { p with name := some (← Reader.text) }
  | "title" => do return { p with title := some (← Reader.text) }
  | "variables" => do return { p with variableNames := some (← Reader.list Reader.text) }
  | "fingerprint" => do return { p with fingerprint := some (← Reader.text) }
  | "excluded" => do return { p with excluded := some (← Reader.optional Reader.text) }
  | "cases" => do return { p with cases := some (← Reader.list RecordedCase.read) }
  | "unsynthesizable" => do return { p with unbuilt := some (← Reader.list UnbuiltCase.read) }
  | _ => return p

/-- The record of the fields that have been read. The exclusion and the cases that could not be
built may be missing. -/
def RuleRecord.Partial.finish (form : RecordForm) (p : RuleRecord.Partial) :
    Reader RuleRecord := do
  let type := RuleRecord.recordType
  let id ← type.need form "id" p.id
  let name ← type.need form "name" p.name
  let title ← type.need form "title" p.title
  let variableNames ← type.need form "variables" p.variableNames
  let fingerprint ← type.need form "fingerprint" p.fingerprint
  let cases ← type.need form "cases" p.cases
  return ⟨id, name, title, variableNames, fingerprint, p.excluded.join, cases,
    p.unbuilt.getD []⟩

/-- Reads a rule's record. -/
def RuleRecord.read : Reader RuleRecord :=
  RuleRecord.recordType.read {} (fun _ => RuleRecord.Partial.field) RuleRecord.Partial.finish

/-! ## Snapshots -/

/-- The fields of a snapshot that have been read. -/
structure Snapshot.Partial where
  format : Option Nat := none
  rules : Option (List RuleRecord) := none

/-- The type of snapshots. -/
def Snapshot.recordType : RecordType := ⟨"Snapshot", ["format", "rules"]⟩

/-- The number of a format. -/
def Reader.formatNumber : Reader Nat :=
  Int.toNat <$> Reader.integer 0 (UInt32.size - 1) "u32"

/-- Reads one field of a snapshot. -/
def Snapshot.Partial.field (p : Snapshot.Partial) : String → Reader Snapshot.Partial
  | "format" => do return { p with format := some (← Reader.formatNumber) }
  | "rules" => do return { p with rules := some (← Reader.list RuleRecord.read) }
  | _ => return p

/-- The format number and the snapshot of the fields that have been read. -/
def Snapshot.Partial.finish (form : RecordForm) (p : Snapshot.Partial) :
    Reader (Nat × Snapshot) := do
  let type := Snapshot.recordType
  let format ← type.need form "format" p.format
  let rules ← type.need form "rules" p.rules
  return (format, ⟨rules⟩)

namespace Snapshot

/-- Reads a format number and a snapshot. -/
def read : Reader (Nat × Snapshot) :=
  recordType.read {} (fun _ => Partial.field) Partial.finish

/-- The snapshot of a text. The format number is checked when everything has been read. -/
def decode (text : String) : Except SnapshotError Snapshot :=
  match read.run (Json.scan text) with
  | .error (.shape fault place) => .error (.shape fault place)
  | .error .notJson => .error .notJson
  | .ok ((format, snapshot), rest) =>
    if !Json.isEnd rest then .error .notJson
    else if format = formatNumber then .ok snapshot
    else .error (.format format)

/-- The snapshot of the file at a path. -/
def ofFile (read : FileReader) (path : String) : Except SnapshotError Snapshot :=
  match read path with
  | .error fault => .error (.file path fault)
  | .ok text => decode text

end Snapshot

end RuleActivation
