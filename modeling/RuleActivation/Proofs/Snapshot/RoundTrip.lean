import RuleActivation.Proofs.Snapshot.Reading
import RuleActivation.Proofs.Synthesis.Label
import RuleActivation.Snapshot.Decode

/-!
# Reading a written snapshot back

What is read back of a written snapshot, part by part. All of it comes back but the labels whose
positions have no 64-bit indices and the environments that JSON does not read back.

## Main definitions

* `Snapshot.reread`: what a written snapshot is read back as, if it is

## Main results

* `Snapshot.toOption_decode_encode`, `Snapshot.toOption_decode_fileText`: reading the text of a
  snapshot, or of its file
-/

namespace RuleActivation

/-! ## What is read back -/

/-- What is read back of a written case. -/
def RecordedCase.reread (c : RecordedCase) : Option RecordedCase :=
  if c.label.isAddressable then
    (c.environment.reread environmentDepth).map fun v => { c with environment := v.canonical }
  else none

/-- What is read back of a written case that could not be built. -/
def UnbuiltCase.reread (u : UnbuiltCase) : Option UnbuiltCase :=
  if u.label.isAddressable then some u else none

/-- What is read back of a written record. -/
def RuleRecord.reread (r : RuleRecord) : Option RuleRecord :=
  (r.cases.mapM RecordedCase.reread).bind fun cases =>
    (r.unbuilt.mapM UnbuiltCase.reread).map fun unbuilt =>
      { r with cases := cases, unbuilt := unbuilt }

/-- What a written snapshot is read back as. -/
def Snapshot.reread (s : Snapshot) : Option Snapshot :=
  (s.rules.mapM RuleRecord.reread).map Snapshot.mk

/-! ## Parts of records -/

open Reader (Reads)

theorem RecordForm.reads_refuse {α : Type} (form : RecordForm) (fault : ShapeFault) :
    (form.refuse fault : Reader α).Reads [] none := fun _ _ _ => rfl

theorem RecordType.reads_need {α : Type} (type : RecordType) (form : RecordForm) (field : String)
    (x : Option α) : (type.need form field x).Reads [] x := by
  cases x with
  | none => cases form <;> exact RecordForm.reads_refuse _ _
  | some a => exact Reads.pure a

theorem Reader.reads_label (form : RecordForm) (l : CaseLabel) :
    (label form).Reads (Json.string l.text).tokens
      (if l.isAddressable then some l else none) := by
  rw [← CaseLabel.toOption_parse_text]
  refine (reads_text l.text).bind_some ?_
  split <;> rename_i parsed <;> rw [parsed]
  · exact Reads.pure _
  · exact RecordForm.reads_refuse _ _

/-! ## Cases -/

namespace RecordedCase

/-- The members of a written case. -/
def members (c : RecordedCase) : List (RecordType.Member RecordedCase.Partial) :=
  [⟨"label", .string c.label.text, fun p =>
      (if c.label.isAddressable then some c.label else none).map fun l =>
        { p with label := some l }⟩,
    ⟨"environment", c.environment, fun p =>
      (c.environment.reread environmentDepth).map fun v =>
        { p with environment := some v.canonical }⟩,
    ⟨"expected", .bool c.expected, fun p => (some c.expected).map fun b =>
      { p with expected := some b }⟩]

/-- The case whose fields have been read, if all of them have. -/
def Partial.case? (p : RecordedCase.Partial) : Option RecordedCase :=
  p.label.bind fun label => p.environment.bind fun environment => p.expected.bind fun expected =>
    some ⟨label, environment, expected⟩

theorem reads_finish (p : RecordedCase.Partial) : (p.finish .members).Reads [] p.case? :=
  (RecordType.reads_need _ _ _ _).bind fun _ _ => (RecordType.reads_need _ _ _ _).bind fun _ _ =>
    (RecordType.reads_need _ _ _ _).bind fun _ _ => Reads.pure _

/-- What is read back of a written case. -/
theorem reads_toJson (c : RecordedCase) : read.Reads c.toJson.tokens c.reread := by
  have fields (p : RecordedCase.Partial) : ∀ m ∈ c.members,
      (p.field .members m.name).Reads m.value.tokens (m.update p) := by
    simp only [members, List.forall_mem_cons]
    refine ⟨?_, ?_, ?_, nofun⟩
    · exact (Reader.reads_label .members c.label).return _
    · exact (Reader.reads_value environmentDepth c.environment).return _
    · exact (Reader.reads_bool c.expected).return _
  have known : ∀ m ∈ c.members, m.name ∈ recordType.fields := by
    simp [members, recordType]
  have fresh : (c.members.map RecordType.Member.name).Nodup := by
    simp [members]
  have result : (RecordType.Member.updateAll c.members {}).bind Partial.case? = c.reread := by
    simp only [members, RecordType.Member.updateAll, reread]
    cases c.label.isAddressable <;> cases c.environment.reread environmentDepth <;> rfl
  rw [← result]
  exact RecordType.reads_object c.members known fresh fields reads_finish

end RecordedCase

namespace UnbuiltCase

/-- The members of a written case that could not be built. -/
def members (u : UnbuiltCase) : List (RecordType.Member UnbuiltCase.Partial) :=
  [⟨"label", .string u.label.text, fun p =>
      (if u.label.isAddressable then some u.label else none).map fun l =>
        { p with label := some l }⟩,
    ⟨"reason", .string u.reason, fun p => (some u.reason).map fun s =>
      { p with reason := some s }⟩]

/-- The case whose fields have been read, if all of them have. -/
def Partial.case? (p : UnbuiltCase.Partial) : Option UnbuiltCase :=
  p.label.bind fun label => p.reason.bind fun reason => some ⟨label, reason⟩

theorem reads_finish (p : UnbuiltCase.Partial) : (p.finish .members).Reads [] p.case? :=
  (RecordType.reads_need _ _ _ _).bind fun _ _ =>
    (RecordType.reads_need _ _ _ _).bind fun _ _ => Reads.pure _

/-- What is read back of a written case that could not be built. -/
theorem reads_toJson (u : UnbuiltCase) : read.Reads u.toJson.tokens u.reread := by
  have fields (p : UnbuiltCase.Partial) : ∀ m ∈ u.members,
      (p.field .members m.name).Reads m.value.tokens (m.update p) := by
    simp only [members, List.forall_mem_cons]
    refine ⟨?_, ?_, nofun⟩
    · exact (Reader.reads_label .members u.label).return _
    · exact (Reader.reads_text u.reason).return _
  have known : ∀ m ∈ u.members, m.name ∈ recordType.fields := by
    simp [members, recordType]
  have fresh : (u.members.map RecordType.Member.name).Nodup := by
    simp [members]
  have result : (RecordType.Member.updateAll u.members {}).bind Partial.case? = u.reread := by
    simp only [members, RecordType.Member.updateAll, reread]
    cases u.label.isAddressable <;> rfl
  rw [← result]
  exact RecordType.reads_object u.members known fresh fields reads_finish

end UnbuiltCase

/-! ## Rules -/

theorem Reader.reads_ruleId (id : Int64) : ruleId.Reads (Json.ofInt id.toInt).tokens (some id) := by
  have sized : id.toInt < UInt64.size := Int.lt_of_le_of_lt id.toInt_le (by decide)
  have read := reads_integer "i64" id.minValue_le_toInt id.toInt_le id.minValue_le_toInt sized
  have kept := read.map Int64.ofInt
  rwa [Option.map_some, Int64.ofInt_toInt] at kept

theorem Reader.reads_texts (names : List String) :
    (list text).Reads (Json.ofList .string names).tokens (some names) := by
  have all : names.mapM some = some names := by
    simpa using List.mapM_pure (m := Option) (l := names) (f := id)
  rw [← all]
  exact reads_list names fun s _ => reads_text s

theorem Reader.reads_optional_text (s : String) :
    (optional text).Reads (Json.string s).tokens (some (some s)) := by
  unfold optional
  refine Reads.peek fun l hl => ?_
  simp only [hl, reduceCtorEq, if_false]
  exact (reads_text s).return some

namespace RuleRecord

/-- The member of a written record that gives the reason for an exclusion. -/
def excludedMember (reason : String) : RecordType.Member RuleRecord.Partial :=
  ⟨"excluded", .string reason, fun p => (some (some reason)).map fun s =>
    { p with excluded := some s }⟩

/-- The members of a written record. -/
def members (r : RuleRecord) : List (RecordType.Member RuleRecord.Partial) :=
  [⟨"id", .ofInt r.id.toInt, fun p => (some r.id).map fun i => { p with id := some i }⟩,
    ⟨"name", .string r.name, fun p => (some r.name).map fun s => { p with name := some s }⟩,
    ⟨"title", .string r.title, fun p => (some r.title).map fun s => { p with title := some s }⟩,
    ⟨"variables", .ofList .string r.variableNames, fun p =>
      (some r.variableNames).map fun names => { p with variableNames := some names }⟩,
    ⟨"fingerprint", .string r.fingerprint, fun p =>
      (some r.fingerprint).map fun s => { p with fingerprint := some s }⟩] ++
  (r.excluded.map excludedMember).toList ++
  [⟨"cases", .ofList RecordedCase.toJson r.cases, fun p =>
      (r.cases.mapM RecordedCase.reread).map fun cases => { p with cases := some cases }⟩,
    ⟨"unsynthesizable", .ofList UnbuiltCase.toJson r.unbuilt, fun p =>
      (r.unbuilt.mapM UnbuiltCase.reread).map fun unbuilt => { p with unbuilt := some unbuilt }⟩]

theorem entry_members (r : RuleRecord) :
    Json.object (r.members.map RecordType.Member.entry) = r.toJson := by
  cases h : r.excluded <;> simp [members, toJson, h, RecordType.Member.entry, excludedMember]

/-- The record whose fields have been read, if all those have that are always there. -/
def Partial.record? (p : RuleRecord.Partial) : Option RuleRecord :=
  p.id.bind fun id => p.name.bind fun name => p.title.bind fun title =>
    p.variableNames.bind fun variableNames => p.fingerprint.bind fun fingerprint =>
      p.cases.bind fun cases => some ⟨id, name, title, variableNames, fingerprint,
        p.excluded.join, cases, p.unbuilt.getD []⟩

theorem reads_finish (p : RuleRecord.Partial) : (p.finish .members).Reads [] p.record? :=
  (RecordType.reads_need _ _ _ _).bind fun _ _ => (RecordType.reads_need _ _ _ _).bind fun _ _ =>
    (RecordType.reads_need _ _ _ _).bind fun _ _ => (RecordType.reads_need _ _ _ _).bind fun _ _ =>
      (RecordType.reads_need _ _ _ _).bind fun _ _ =>
        (RecordType.reads_need _ _ _ _).bind fun _ _ => Reads.pure _

/-- What is read back of a written record. -/
theorem reads_toJson (r : RuleRecord) : read.Reads r.toJson.tokens r.reread := by
  have fields (p : RuleRecord.Partial) : ∀ m ∈ r.members,
      (p.field m.name).Reads m.value.tokens (m.update p) := by
    simp only [members, List.forall_mem_append, List.forall_mem_cons]
    refine ⟨⟨⟨?_, ?_, ?_, ?_, ?_, nofun⟩, fun m hm => ?_⟩, ?_, ?_, nofun⟩
    · exact (Reader.reads_ruleId r.id).return _
    · exact (Reader.reads_text r.name).return _
    · exact (Reader.reads_text r.title).return _
    · exact (Reader.reads_texts r.variableNames).return _
    · exact (Reader.reads_text r.fingerprint).return _
    · obtain ⟨reason, -, rfl⟩ : ∃ reason, r.excluded = some reason ∧ excludedMember reason = m := by
        simpa using hm
      exact (Reader.reads_optional_text reason).return _
    · exact (Reader.reads_list r.cases fun c _ => c.reads_toJson).return _
    · exact (Reader.reads_list r.unbuilt fun u _ => u.reads_toJson).return _
  have known : ∀ m ∈ r.members, m.name ∈ recordType.fields := by
    cases h : r.excluded <;> simp [members, recordType, h, excludedMember]
  have fresh : (r.members.map RecordType.Member.name).Nodup := by
    cases h : r.excluded <;> simp [members, h, excludedMember]
  have result : (RecordType.Member.updateAll r.members {}).bind Partial.record? = r.reread := by
    unfold members reread Partial.record?
    cases h : r.excluded <;> cases r.cases.mapM RecordedCase.reread <;>
      cases r.unbuilt.mapM UnbuiltCase.reread <;>
      simp [RecordType.Member.updateAll, excludedMember]
  rw [← result, ← entry_members]
  exact RecordType.reads_object r.members known fresh fields reads_finish

end RuleRecord

/-! ## Snapshots -/

theorem Reader.reads_formatNumber :
    formatNumber.Reads (Json.ofNat Snapshot.formatNumber).tokens (some Snapshot.formatNumber) := by
  have read := @reads_integer 0 (UInt32.size - 1) Snapshot.formatNumber "u32" (by decide)
    (by decide) (by decide) (by decide)
  exact read.map Int.toNat

namespace Snapshot

/-- The members of a written snapshot. -/
def members (s : Snapshot) : List (RecordType.Member Snapshot.Partial) :=
  [⟨"format", .ofNat formatNumber, fun p => (some formatNumber).map fun n =>
      { p with format := some n }⟩,
    ⟨"rules", .ofList RuleRecord.toJson s.rules, fun p =>
      (s.rules.mapM RuleRecord.reread).map fun rules => { p with rules := some rules }⟩]

/-- The snapshot whose fields have been read, with the number of its format, if all of them have. -/
def Partial.snapshot? (p : Snapshot.Partial) : Option (Nat × Snapshot) :=
  p.format.bind fun format => p.rules.bind fun rules => some (format, ⟨rules⟩)

theorem reads_finish (p : Snapshot.Partial) : (p.finish .members).Reads [] p.snapshot? :=
  (RecordType.reads_need _ _ _ _).bind fun _ _ =>
    (RecordType.reads_need _ _ _ _).bind fun _ _ => Reads.pure _

/-- What is read back of a written snapshot. -/
theorem reads_toJson (s : Snapshot) :
    read.Reads s.toJson.tokens (s.reread.map (formatNumber, ·)) := by
  have fields (p : Snapshot.Partial) : ∀ m ∈ s.members,
      (p.field m.name).Reads m.value.tokens (m.update p) := by
    simp only [members, List.forall_mem_cons]
    refine ⟨?_, ?_, nofun⟩
    · exact Reader.reads_formatNumber.return _
    · exact (Reader.reads_list s.rules fun r _ => r.reads_toJson).return _
  have known : ∀ m ∈ s.members, m.name ∈ recordType.fields := by
    simp [members, recordType]
  have fresh : (s.members.map RecordType.Member.name).Nodup := by
    simp [members]
  have result : (RecordType.Member.updateAll s.members {}).bind Partial.snapshot? =
      s.reread.map (formatNumber, ·) := by
    simp only [members, RecordType.Member.updateAll, reread]
    cases s.rules.mapM RuleRecord.reread <;> rfl
  rw [← result]
  exact RecordType.reads_object s.members known fresh fields reads_finish

theorem toOption_decode {text : String} {s : Snapshot}
    (h : (Json.scan text).map Json.Lexeme.token = s.toJson.tokens ++ [.ending]) :
    (decode text).toOption = s.reread := by
  obtain ⟨lexemes, last, split, hlexemes, hlast⟩ := List.map_eq_append_iff.1 h
  have found := s.reads_toJson lexemes last hlexemes
  have isEnd : Json.isEnd last = true := by
    obtain ⟨l, rfl, hl⟩ := List.map_eq_singleton_iff.1 hlast
    simp [Json.isEnd, hl]
  rw [decode, split]
  rw [Option.map_map] at found
  cases result : read.run (lexemes ++ last) with
  | error fault =>
    rw [result] at found
    have none : s.reread = none := Option.map_eq_none_iff.1 found.symm
    rw [none]
    cases fault <;> rfl
  | ok read =>
    rw [result] at found
    obtain ⟨back, hback, rfl⟩ := Option.map_eq_some_iff.1 found.symm
    simp [isEnd, hback, Except.toOption]

/-- What a written snapshot is read back as. -/
theorem toOption_decode_encode (s : Snapshot) : (decode s.encode).toOption = s.reread :=
  toOption_decode (Json.map_token_scan_pretty s.toJson)

/-- What the file of a written snapshot is read back as. -/
theorem toOption_decode_fileText (s : Snapshot) : (decode s.fileText).toOption = s.reread :=
  toOption_decode (Json.map_token_scan_pretty_line s.toJson)

end Snapshot

end RuleActivation
