import RuleActivation.CommandLine.Run
import RuleActivation.Proofs.Directory
import RuleActivation.Proofs.Schema
import RuleActivation.Proofs.Snapshot.Limits
import RuleActivation.Proofs.Snapshot.Verify

/-!
# Writing a snapshot and checking it

A file of rules that the command for validating accepts has a snapshot that can be written, read
back and checked without a finding. The schema keeps literals flat, so that the snapshot is read
back and no case depends on what JSON loses; the file keeps its rules as long as the snapshot is
written to another place.

## Main results

* `Rule.isRestorable_of_problems`: the rules of a valid document
* `CommandLine.exit_validate_iff`: the files that are accepted
* `CommandLine.exit_check_of_write`: the check of a snapshot that has been written
-/

namespace RuleActivation

/-! ## Valid documents -/

/-- The environments of a rule's cases give values to the rule's variables only. -/
theorem Rule.mem_variableNames_of_mem_keys {r : Rule} {c : BoundaryCase}
    (mem : c ∈ r.synthesize.cases) {name : String} (h : name ∈ c.environment.keys) :
    name ∈ r.variableNames := by
  obtain ⟨⟨key, v⟩, entry, rfl⟩ := List.mem_map.1 h
  obtain ⟨leaf, there, same, -⟩ := exists_leaf_of_mem_cases mem (Dictionary.mem_entries_iff.1 entry)
  exact Node.mem_variableNames.2 ⟨leaf, there, same⟩

/-- The rules of a valid document are restorable, unless a variable is called like the key for
numbers. -/
theorem Rule.isRestorable_of_problems {text : String} {document : Json} {registry : Registry}
    (small : text.length < UInt64.size) (parsed : Json.parse? text = some document)
    (valid : Schema.problems document = []) (loaded : Registry.ofJson document = .ok registry)
    {r : Rule} (mem : r ∈ registry.rules) (plain : Json.numberKey ∉ r.variableNames) :
    r.IsRestorable where
  addressable leaf there := by
    refine List.all_eq_true.2 fun i index => decide_eq_true ?_
    have := Registry.index_lt_of_mem_leaves loaded (Json.width_le_of_parse? parsed) r mem leaf
      there i index
    omega
  shallow leaf there :=
    Nat.lt_of_le_of_lt (Schema.isFlat_of_problems valid loaded r mem leaf there).depth_le_one
      (by decide)
  unreserved c case first := plain (mem_variableNames_of_mem_keys case (List.mem_of_head? first))

/-! ## Files of rules -/

theorem Registry.ofFile_eq_ok_iff {read : FileReader} {path : String} {registry : Registry} :
    ofFile read path = .ok registry ↔
      ∃ text document, read path = .ok text ∧ Json.parse? text = some document ∧
        ofJson document = .ok registry := by
  unfold ofFile
  cases read path with
  | error fault => simp
  | ok text => cases parsed : Json.parse? text <;> simp [parsed]

namespace CommandLine

/-! ## Exit codes -/

namespace Output

variable (inv : Invocation)

@[simp] theorem exit_print (exit : Nat) (text document : String) :
    (print inv exit text document).exit = exit := by
  unfold print
  repeat' split
  all_goals rfl

@[simp] theorem exit_present (exit : Nat) (lines : List String) (document : Json) :
    (present inv exit lines document).exit = exit := exit_print ..

@[simp] theorem exit_failWith (lines : List String) (document : String) :
    (failWith inv lines document).exit = 1 := by
  unfold failWith
  repeat' split
  all_goals rfl

@[simp] theorem exit_fail (message : String) : (fail inv message).exit = 1 := exit_failWith ..

end Output

/-! ## Reading rules -/

theorem orFail_eq_ok_iff {ε α : Type} {inv : Invocation} {message : ε → String} {x : Except ε α}
    {a : α} : Step.orFail inv message x = .ok a ↔ x = .ok a := by
  cases x with
  | ok b => exact ⟨fun h => congrArg _ (Except.ok.inj h), fun h => congrArg _ (Except.ok.inj h)⟩
  | error e => simp [Step.orFail, Step.fail]

theorem readJson_eq_ok_iff {inv : Invocation} {read : FileReader} {what path : String} {v : Json} :
    readJson inv read what path = .ok v ↔
      ∃ text, read path = .ok text ∧ Json.parse? text = some v := by
  unfold readJson
  rw [bind_eq_ok_iff]
  refine exists_congr fun text => and_congr orFail_eq_ok_iff ?_
  cases Json.parse? text with
  | none => simp [Step.fail]
  | some v' => simp

/-- The rules of a command are those in its file of rules. -/
theorem readRegistry_eq_ok_iff {inv : Invocation} {read : FileReader} {registry : Registry} :
    readRegistry inv read = .ok registry ↔ Registry.ofFile read inv.rules = .ok registry := by
  unfold readRegistry
  rw [bind_eq_ok_iff, Registry.ofFile_eq_ok_iff, exists_comm]
  simp only [readJson_eq_ok_iff, orFail_eq_ok_iff, exists_and_right, ← and_assoc]

section

variable (inv : Invocation) {d d' : Directory}

theorem exit_run_of_fail (message : String) (h : inv.steps d.read = Step.fail inv message) :
    (inv.run d).1.exit = 1 := by
  rw [Invocation.run, Invocation.reply, h]
  exact Output.exit_fail inv message

/-- A file is read and is JSON, or the command fails. -/
theorem readJson_cases (read : FileReader) (what path : String) :
    (∃ text v, read path = .ok text ∧ Json.parse? text = some v ∧
      readJson inv read what path = .ok v) ∨
    ∃ message, readJson inv read what path = Step.fail inv message := by
  unfold readJson
  cases content : read path with
  | error fault => exact .inr ⟨_, rfl⟩
  | ok text =>
    cases parsed : Json.parse? text with
    | none =>
      refine .inr ⟨"error: invalid JSON in " ++ path, ?_⟩
      simp only [Step.orFail, bind, Except.bind, parsed]
    | some v =>
      refine .inl ⟨text, v, rfl, parsed, ?_⟩
      simp only [Step.orFail, bind, Except.bind, parsed]

theorem documentProblems_eq_ok_iff {document : Json} {registry : Registry} :
    documentProblems document = .ok registry ↔
      Schema.problems document = [] ∧ Registry.ofJson document = .ok registry := by
  unfold documentProblems
  split
  · rename_i valid
    rw [mapError_eq_ok_iff, valid, eq_self_iff_true, true_and]
  · rename_i invalid
    exact ⟨nofun, fun ⟨valid, _⟩ => absurd valid invalid⟩

/-- The command for validating accepts the files whose document has the right structure and can be
loaded. -/
theorem exit_validate_iff {path : String} (command : inv.command = .validate path) :
    (inv.run d).1.exit = 0 ↔
      ∃ text document registry, d.read path = .ok text ∧ Json.parse? text = some document ∧
        Schema.problems document = [] ∧ Registry.ofJson document = .ok registry := by
  have steps : inv.steps d.read =
      (readJson inv d.read "rules" path).map fun v => validateReply inv v := by
    rw [Invocation.steps, command]
    rfl
  rcases readJson_cases inv d.read "rules" path with
    ⟨text, document, content, parsed, read⟩ | ⟨message, failed⟩
  · have replied : inv.steps d.read = .ok (validateReply inv document) := by rw [steps, read]; rfl
    rw [Invocation.run, Invocation.reply, replied, Step.reply, validateReply]
    constructor
    · intro exit
      cases checked : documentProblems document with
      | ok registry =>
        obtain ⟨valid, loaded⟩ := documentProblems_eq_ok_iff.1 checked
        exact ⟨text, document, registry, content, parsed, valid, loaded⟩
      | error problems =>
        rw [checked] at exit
        simp at exit
    · rintro ⟨text', document', registry, content', parsed', valid, loaded⟩
      obtain rfl := Except.ok.inj (content.symm.trans content')
      obtain rfl := Option.some.inj (parsed.symm.trans parsed')
      rw [documentProblems_eq_ok_iff.2 ⟨valid, loaded⟩]
      exact Output.exit_print ..
  · have exit := exit_run_of_fail inv (d := d) message (by rw [steps, failed]; rfl)
    rw [exit]
    refine ⟨nofun, ?_⟩
    rintro ⟨text, document, -, content, parsed, -⟩
    simp [readJson, content, parsed, Step.orFail, Step.fail, bind, Except.bind] at failed

theorem readRegistry_eq {text : String} {document : Json} {registry : Registry}
    (content : d.read inv.rules = .ok text) (parsed : Json.parse? text = some document)
    (loaded : Registry.ofJson document = .ok registry) :
    readRegistry inv d.read = .ok registry :=
  readRegistry_eq_ok_iff.2 (Registry.ofFile_eq_ok_iff.2 ⟨text, document, content, parsed, loaded⟩)

/-! ## Snapshots in files -/

/-- A snapshot is written if the rules can be loaded and the file can be written. -/
theorem run_write_eq {path : String} {registry : Registry}
    (command : inv.command = .snapshot path false)
    (loaded : readRegistry inv d.read = .ok registry)
    (written : d.write path (Snapshot.build registry).fileText = .ok d') :
    inv.run d = (.present inv 0 [writtenLine path (Snapshot.build registry)]
      (writtenDocument path (Snapshot.build registry)), d') := by
  have replied : inv.steps d.read = .ok (writeSnapshot inv registry path) := by
    rw [Invocation.steps, command]
    simp only [loaded, bind, Except.bind]
    rfl
  rw [Invocation.run, Invocation.reply, replied, Step.reply, writeSnapshot]
  simp only [written]

/-- The exit code of a check says whether there is something to report. -/
theorem exit_check_eq {path : String} {registry : Registry} {s : Snapshot} {v : Verification}
    (command : inv.command = .snapshot path true)
    (loaded : readRegistry inv d.read = .ok registry)
    (file : Snapshot.ofFile d.read path = .ok s) (verified : s.verify registry = .ok v) :
    (inv.run d).1.exit = if v.isClean then 0 else 1 := by
  have replied : inv.steps d.read = .ok (.done (.present inv (if v.isClean then 0 else 1)
      (verificationLines v) (verificationDocument v))) := by
    rw [Invocation.steps, command]
    simp only [loaded, checkSnapshot, file, verified, Step.orFail, bind, Except.bind]
    rfl
  rw [Invocation.run, Invocation.reply, replied, Step.reply]
  exact Output.exit_present ..

theorem exit_check_of_error {path : String} {registry : Registry} {e : SnapshotError}
    (command : inv.command = .snapshot path true)
    (loaded : readRegistry inv d.read = .ok registry)
    (file : Snapshot.ofFile d.read path = .error e) : (inv.run d).1.exit = 1 := by
  refine exit_run_of_fail inv ("error: " ++ e.message) ?_
  rw [Invocation.steps, command]
  simp only [loaded, checkSnapshot, file, Step.orFail, bind, Except.bind]
  rfl

end

theorem decode_fileText_of_isRestorable {registry : Registry}
    (h : ∀ r ∈ registry.activeRules, r.IsRestorable) :
    Snapshot.decode (Snapshot.build registry).fileText = .ok (Snapshot.build registry) := by
  have read := (Snapshot.reread_build_iff registry).2 fun r mem _ => h r mem
  rw [← Snapshot.toOption_decode_fileText] at read
  cases decoded : Snapshot.decode (Snapshot.build registry).fileText with
  | error fault => simp [decoded, Except.toOption] at read
  | ok s => simpa [decoded, Except.toOption] using read

/-- A snapshot of a valid file of rules can be written, and the check of what has been written finds
nothing. The path of the snapshot leads to another place than that of the rules, and not to the
sink. -/
theorem exit_check_of_write {d : Directory} {rules out ignored : String}
    {validArgs writeArgs checkArgs : List String} {f₁ f₂ f₃ : Format} {q₁ q₂ q₃ : Bool}
    (validating : Invocation.parse validArgs = .ok ⟨f₁, q₁, ignored, .validate rules⟩)
    (writing : Invocation.parse writeArgs = .ok ⟨f₂, q₂, rules, .snapshot out false⟩)
    (checking : Invocation.parse checkArgs = .ok ⟨f₃, q₃, rules, .snapshot out true⟩)
    (accepted : (run validArgs d).1.exit = 0)
    (writable : ∀ text, ∃ d', d.write out text = .ok d')
    (apart : d.locate out ≠ d.locate rules) (kept : d.locate out ≠ .ok Directory.sink)
    (small : ∀ text, d.read rules = .ok text → text.length < UInt64.size)
    (plain : ∀ registry, Registry.ofFile d.read rules = .ok registry →
      ∀ r ∈ registry.activeRules, Json.numberKey ∉ r.variableNames) :
    (run writeArgs d).1.exit = 0 ∧
      (run checkArgs (run writeArgs d).2).1.exit = 0 ∧
      ∃ registry text, Registry.ofFile d.read rules = .ok registry ∧
        (run writeArgs d).2.read out = .ok text ∧
        Snapshot.decode text = .ok (Snapshot.build registry) ∧
        (Snapshot.build registry).verify registry =
          .ok ⟨(Snapshot.build registry).caseCount, [], [], [], []⟩ := by
  simp only [run, validating, writing, checking] at accepted ⊢
  obtain ⟨text, document, registry, content, parsed, valid, loaded⟩ :=
    (exit_validate_iff _ rfl).1 accepted
  have file : Registry.ofFile d.read rules = .ok registry := by
    simp only [Registry.ofFile, content, parsed]
    exact loaded
  have active (r : Rule) (mem : r ∈ registry.activeRules) : r ∈ registry.rules :=
    List.mem_of_mem_filter mem
  have decoded := decode_fileText_of_isRestorable fun r mem =>
    Rule.isRestorable_of_problems (small text content) parsed valid loaded (active r mem)
      (plain registry file r mem)
  have verified := Snapshot.verify_build_of_isRecordable fun r mem leaf there =>
    (Schema.isFlat_of_problems valid loaded r (active r mem) leaf there).isRecordable
  obtain ⟨d', written⟩ := writable (Snapshot.build registry).fileText
  have stored := Directory.read_of_write written kept
  rw [run_write_eq _ rfl (readRegistry_eq _ content parsed loaded) written]
  refine ⟨Output.exit_present .., ?_, registry, _, file, stored, decoded, verified⟩
  have still := Directory.read_of_write_of_ne written apart content
  rw [exit_check_eq _ rfl (readRegistry_eq _ still parsed loaded)
    (by rw [Snapshot.ofFile, stored]; exact decoded) verified]
  rfl

/-- A document with a rule on a number that is almost the greatest one and on a list of texts. -/
def sampleDocument : Json := .object [("rules", .array [.object [
  ("ast", .object [
    ("children", .array [
      .object [("operator", .string "greater_than"), ("type", .string "condition"),
        ("value", .ofNat 79228162514264337593543950334), ("variable", .string "count")],
      .object [("operator", .string "in_list"), ("type", .string "condition"),
        ("value", .array [.string "\"a\"\n", .bool true]), ("variable", .string "tag")]]),
    ("type", .string "and")]),
  ("id", .ofNat 1), ("name", .string "limit"), ("title", .string "Limit")]])]

/-- A directory in which the document is the only file. -/
def sampleDirectory : Directory := ⟨[(["rules.json"], some sampleDocument.compact)]⟩

theorem parse?_sampleDocument : Json.parse? sampleDocument.compact = some sampleDocument := by
  rw [Json.parse?, Json.read?_compact]
  rfl

theorem read_sampleDirectory :
    sampleDirectory.read "rules.json" = .ok sampleDocument.compact := rfl

theorem problems_sampleDocument : Schema.problems sampleDocument = [] := by
  rfl

theorem ofJson_sampleDocument : ∃ registry, Registry.ofJson sampleDocument = .ok registry ∧
    ∀ r ∈ registry.activeRules, Json.numberKey ∉ r.variableNames :=
  ⟨_, rfl, by decide⟩

theorem exit_validate_sampleDirectory :
    (run ["validate", "rules.json"] sampleDirectory).1.exit = 0 := by
  have validating : Invocation.parse ["validate", "rules.json"] =
    .ok ⟨.text, false, "rules/corpus.json", .validate "rules.json"⟩ := rfl
  obtain ⟨registry, loaded, -⟩ := ofJson_sampleDocument
  simp only [run, validating]
  exact (exit_validate_iff _ rfl).2 ⟨_, _, registry, read_sampleDirectory, parse?_sampleDocument,
    problems_sampleDocument, loaded⟩

theorem length_sampleDocument : sampleDocument.compact.length < UInt64.size := by
  rw [Json.compact, String.length_ofList]
  decide +kernel

/-- The commands on the sample, by the general theorem. -/
theorem exit_check_of_write_sample :
    (run ["--rules", "rules.json", "snapshot", "--out", "cases.json"] sampleDirectory).1.exit = 0 ∧
      (run ["--rules", "rules.json", "snapshot", "--check", "--out", "cases.json"]
        (run ["--rules", "rules.json", "snapshot", "--out", "cases.json"]
          sampleDirectory).2).1.exit = 0 := by
  have rules : sampleDirectory.locate "rules.json" = .ok ["rules.json"] := rfl
  have out : sampleDirectory.locate "cases.json" = .ok ["cases.json"] := rfl
  have writable (text : String) : ∃ d', sampleDirectory.write "cases.json" text = .ok d' := ⟨_, rfl⟩
  have small (text : String) (read : sampleDirectory.read "rules.json" = .ok text) :
      text.length < UInt64.size := by
    obtain rfl := Except.ok.inj (read_sampleDirectory.symm.trans read)
    exact length_sampleDocument
  obtain ⟨registry, loaded, plain⟩ := ofJson_sampleDocument
  have file : Registry.ofFile sampleDirectory.read "rules.json" = .ok registry := by
    simp only [Registry.ofFile, read_sampleDirectory, parse?_sampleDocument]
    exact loaded
  have names (other : Registry)
      (read : Registry.ofFile sampleDirectory.read "rules.json" = .ok other) :
      ∀ r ∈ other.activeRules, Json.numberKey ∉ r.variableNames :=
    Except.ok.inj (file.symm.trans read) ▸ plain
  have validating : Invocation.parse ["validate", "rules.json"] =
    .ok ⟨.text, false, "rules/corpus.json", .validate "rules.json"⟩ := rfl
  have writing : Invocation.parse ["--rules", "rules.json", "snapshot", "--out", "cases.json"] =
    .ok ⟨.text, false, "rules.json", .snapshot "cases.json" false⟩ := rfl
  have checking : Invocation.parse
      ["--rules", "rules.json", "snapshot", "--check", "--out", "cases.json"] =
    .ok ⟨.text, false, "rules.json", .snapshot "cases.json" true⟩ := rfl
  obtain ⟨written, checked, -⟩ := exit_check_of_write validating writing checking
    exit_validate_sampleDirectory writable (by rw [rules, out]; decide) (by rw [out]; decide)
    small names
  exact ⟨written, checked⟩

/-- A snapshot can be written to the sink, but it is not there when it is checked. -/
theorem exit_check_sink_eq_one :
    (run ["validate", "rules.json"] sampleDirectory).1.exit = 0 ∧
      (∀ text, ∃ d', sampleDirectory.write "/dev/null" text = .ok d') ∧
      sampleDirectory.locate "/dev/null" ≠ sampleDirectory.locate "rules.json" ∧
      (run ["--rules", "rules.json", "snapshot", "--out", "/dev/null"] sampleDirectory).1.exit = 0 ∧
      (run ["--rules", "rules.json", "snapshot", "--check", "--out", "/dev/null"]
        (run ["--rules", "rules.json", "snapshot", "--out", "/dev/null"]
          sampleDirectory).2).1.exit = 1 := by
  have rules : sampleDirectory.locate "rules.json" = .ok ["rules.json"] := rfl
  have out : sampleDirectory.locate "/dev/null" = .ok Directory.sink := rfl
  have writing : Invocation.parse ["--rules", "rules.json", "snapshot", "--out", "/dev/null"] =
    .ok ⟨.text, false, "rules.json", .snapshot "/dev/null" false⟩ := rfl
  have checking : Invocation.parse
      ["--rules", "rules.json", "snapshot", "--check", "--out", "/dev/null"] =
    .ok ⟨.text, false, "rules.json", .snapshot "/dev/null" true⟩ := rfl
  have swallowed (text : String) :
      sampleDirectory.write "/dev/null" text = .ok sampleDirectory := rfl
  have empty : Snapshot.ofFile sampleDirectory.read "/dev/null" = Snapshot.decode "" := rfl
  obtain ⟨registry, loaded, -⟩ := ofJson_sampleDocument
  have read (inv : Invocation) (there : inv.rules = "rules.json") :
      readRegistry inv sampleDirectory.read = .ok registry :=
    readRegistry_eq inv (there ▸ read_sampleDirectory) parse?_sampleDocument loaded
  refine ⟨exit_validate_sampleDirectory, fun text => ⟨_, swallowed text⟩,
    by rw [rules, out]; decide, ?_⟩
  simp only [run, writing, checking]
  rw [run_write_eq _ rfl (read _ rfl) (swallowed _)]
  refine ⟨Output.exit_present .., ?_⟩
  exact exit_check_of_error _ rfl (read _ rfl) empty

end CommandLine

end RuleActivation
