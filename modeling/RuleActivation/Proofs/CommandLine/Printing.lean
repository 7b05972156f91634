import RuleActivation.Proofs.CommandLine.Variation
import RuleActivation.Proofs.CommandLine.Snapshot

/-!
# What the commands do besides printing

Two runs of a command that differ in how they print read the same files, take the same decisions and
end in the same way, step by step. A command that is kept quiet does what it does otherwise. The
form of the output makes a difference to one command: the coverage report is written to a file as
text only.

## Main definitions

* `Reply.Related`, `Step.Related`: replies and steps that differ in what is printed
* `Invocation.Alike`: invocations that ask for the same, however it is printed

## Main results

* `Invocation.Alike.related_steps`: the steps of a command do not depend on how it prints
* `run_of_reformatted`: when the form of the output makes no difference
* `run_hushed`: keeping a command quiet makes no difference
-/

namespace RuleActivation.CommandLine

/-! ## Replies that differ in what is printed -/

variable {R : Output → Output → Prop}

/-- Replies that write the same text to the same path, if any, and whose outputs are related. -/
inductive Reply.Related (R : Output → Output → Prop) : Reply → Reply → Prop where
  | done {output output' : Output} (h : R output output') :
      Related R (.done output) (.done output')
  | write {path text : String} {written written' : Output} {failed failed' : FileFault → Output}
      (h : R written written') (faults : ∀ fault, R (failed fault) (failed' fault)) :
      Related R (.write path text written failed) (.write path text written' failed')

namespace Step

variable {α β : Type}

/-- Steps with related results, or that both end a command with related replies. -/
inductive Related (R : Output → Output → Prop) (S : α → α → Prop) : Step α → Step α → Prop where
  | ok {a a' : α} (h : S a a') : Related R S (.ok a) (.ok a')
  | error {r r' : Reply} (h : Reply.Related R r r') : Related R S (.error r) (.error r')

/-- The steps after the same result. -/
theorem Related.bind {S : β → β → Prop} {x x' : Step α} {f f' : α → Step β}
    (h : Related R Eq x x') (next : ∀ a, x = .ok a → Related R S (f a) (f' a)) :
    Related R S (x >>= f) (x' >>= f') := by
  cases h with
  | ok same => exact same ▸ next _ rfl
  | error h => exact .error h

theorem Related.reply {x x' : Step Reply} (h : Related R (Reply.Related R) x x') :
    Reply.Related R x.reply x'.reply := by
  cases h with
  | ok h => exact h
  | error h => exact h

end Step

/-- A command whose reply differs in what is printed changes the directory in the same way. -/
theorem Invocation.run_of_related {inv inv' : Invocation} {d : Directory}
    (h : Reply.Related R (inv.reply d.read) (inv'.reply d.read)) :
    R (inv.run d).1 (inv'.run d).1 ∧ (inv'.run d).2 = (inv.run d).2 := by
  unfold run
  generalize inv.reply d.read = reply at h
  generalize inv'.reply d.read = reply' at h
  cases h with
  | done h => exact ⟨h, rfl⟩
  | @write path text _ _ _ _ h faults =>
    dsimp only
    cases d.write path text with
    | ok d' => exact ⟨h, rfl⟩
    | error fault => exact ⟨faults fault, rfl⟩

/-! ## Invocations that differ in how they print -/

/-- Invocations of the same command with the same rules, whose outputs are related. -/
structure Invocation.Alike (R : Output → Output → Prop) (inv inv' : Invocation) : Prop where
  rules : inv'.rules = inv.rules
  command : inv'.command = inv.command
  print : ∀ exit text document, R (.print inv exit text document) (.print inv' exit text document)
  failWith : ∀ lines document, R (.failWith inv lines document) (.failWith inv' lines document)

namespace Invocation.Alike

variable {inv inv' : Invocation} (h : Alike R inv inv') (read : FileReader)

include h

theorem related_fail {α : Type} {S : α → α → Prop} (message : String) :
    Step.Related R S (Step.fail inv message) (Step.fail inv' message) :=
  .error (.done (h.failWith ..))

theorem related_orFail {ε α : Type} (message : ε → String) (x : Except ε α) :
    Step.Related R Eq (Step.orFail inv message x) (Step.orFail inv' message x) := by
  cases x with
  | ok a => exact .ok rfl
  | error e => exact h.related_fail (message e)

theorem related_present (exit : Nat) (lines : List String) (document : Json) :
    Step.Related R (Reply.Related R) (.ok (.done (.present inv exit lines document)))
      (.ok (.done (.present inv' exit lines document))) :=
  .ok (.done (h.print ..))

theorem related_readJson (what path : String) :
    Step.Related R Eq (readJson inv read what path) (readJson inv' read what path) := by
  unfold readJson
  refine (h.related_orFail _ _).bind fun text _ => ?_
  cases Json.parse? text with
  | none => exact h.related_fail _
  | some v => exact .ok rfl

theorem related_readRegistry :
    Step.Related R Eq (readRegistry inv read) (readRegistry inv' read) := by
  unfold readRegistry
  rw [h.rules]
  exact (h.related_readJson read "rules" inv.rules).bind fun _ _ => h.related_orFail _ _

theorem related_evalReply (key : Option String) (path : String) (trace : Bool) :
    Step.Related R (Reply.Related R) (evalReply inv read key path trace)
      (evalReply inv' read key path trace) := by
  unfold evalReply
  refine (h.related_readRegistry read).bind fun registry _ => ?_
  refine (h.related_readJson read _ path).bind fun document _ => ?_
  refine (h.related_orFail _ _).bind fun env _ => ?_
  cases key with
  | none =>
    cases trace with
    | true => exact h.related_fail _
    | false => exact h.related_present ..
  | some key =>
    refine (h.related_orFail _ _).bind fun r _ => ?_
    cases trace with
    | true => exact h.related_present ..
    | false => exact h.related_present ..

theorem related_writeSnapshot (registry : Registry) (path : String) :
    Reply.Related R (writeSnapshot inv registry path) (writeSnapshot inv' registry path) :=
  .write (h.print ..) fun _ => h.failWith ..

theorem related_checkSnapshot (registry : Registry) (path : String) :
    Step.Related R (Reply.Related R) (checkSnapshot inv read registry path)
      (checkSnapshot inv' read registry path) :=
  (h.related_orFail _ _).bind fun _ _ => h.related_present ..

/-- The report is printed in both forms, or both invocations ask for the same form. -/
theorem related_reportReply (report : CoverageReport) {out : Option String}
    (told : inv'.format = inv.format ∨ out = none) :
    Reply.Related R (reportReply inv report out) (reportReply inv' report out) := by
  cases out with
  | none =>
    unfold reportReply
    cases inv.format <;> cases inv'.format <;> exact .done (h.print ..)
  | some path =>
    have same : inv'.format = inv.format := told.resolve_right nofun
    unfold reportReply
    rw [same]
    cases inv.format with
    | text => exact .write (h.print ..) fun _ => h.failWith ..
    | json => exact .done (h.print ..)

theorem related_validateReply (document : Json) :
    Reply.Related R (validateReply inv document) (validateReply inv' document) := by
  unfold validateReply
  cases documentProblems document with
  | ok registry => exact .done (h.print ..)
  | error problems => exact .done (h.failWith ..)

/-- **The steps of a command** do not depend on how it prints, unless it comes to write the coverage
report to a file and the forms of output differ. -/
theorem related_steps (told : inv'.format = inv.format ∨
      ∀ path, inv.command = .report (some path) → ∀ registry, readRegistry inv read ≠ .ok registry) :
    Step.Related R (Reply.Related R) (inv.steps read) (inv'.steps read) := by
  unfold steps
  rw [h.command]
  cases command : inv.command with
  | list => exact (h.related_readRegistry read).bind fun _ _ => h.related_present ..
  | eval key path trace => exact h.related_evalReply read key path trace
  | snapshot out check =>
    refine (h.related_readRegistry read).bind fun registry _ => ?_
    cases check with
    | true => exact h.related_checkSnapshot read registry out
    | false => exact .ok (h.related_writeSnapshot registry out)
  | stats => exact (h.related_readRegistry read).bind fun _ _ => h.related_present ..
  | report out =>
    refine (h.related_readRegistry read).bind fun registry loaded => ?_
    refine .ok (h.related_reportReply _ (told.imp_right fun never => ?_))
    cases out with
    | none => rfl
    | some path => exact absurd loaded (never path command registry)
  | validate file =>
    exact (h.related_readJson read _ file).bind fun document _ =>
      .ok (h.related_validateReply document)

end Invocation.Alike

theorem run_of_parse {args : List String} {inv : Invocation}
    (parsed : Invocation.parse args = .ok inv) (d : Directory) : run args d = inv.run d := by
  rw [run, parsed]

/-! ## The form of the output -/

theorem Invocation.alike_format (inv : Invocation) (format : Format) :
    Alike (fun o o' => o'.exit = o.exit) inv { inv with format } where
  rules := rfl
  command := rfl
  print exit text document := by rw [Output.exit_print, Output.exit_print]
  failWith lines document := by rw [Output.exit_failWith, Output.exit_failWith]

section Report

variable {inv : Invocation} {d : Directory} {path : String} {registry : Registry}

theorem reply_report (command : inv.command = .report (some path))
    (loaded : readRegistry inv d.read = .ok registry) :
    inv.reply d.read = reportReply inv registry.analyze.2 (some path) := by
  rw [Invocation.reply, Invocation.steps, command]
  simp only [loaded]
  rfl

/-- A report that is asked for as text goes to the file, and one that is asked for as JSON does not:
nothing tells the two apart if the file has the report in it already. -/
theorem run_report_same_iff {inv' : Invocation} (text : inv.format = .text)
    (json : inv'.format = .json) (command : inv.command = .report (some path))
    (command' : inv'.command = .report (some path))
    (loaded : readRegistry inv d.read = .ok registry)
    (loaded' : readRegistry inv' d.read = .ok registry) :
    ((inv'.run d).1.exit = (inv.run d).1.exit ∧ (inv'.run d).2 = (inv.run d).2) ↔
      d.write path registry.analyze.2.markdown = .ok d := by
  rw [Invocation.run, Invocation.run, reply_report command loaded, reply_report command' loaded']
  simp only [reportReply, text, json, Output.exit_print]
  cases d.write path registry.analyze.2.markdown with
  | ok d' => simp [eq_comm]
  | error fault => simp

theorem run_report_format_iff {format : Format} (differ : format ≠ inv.format)
    (command : inv.command = .report (some path))
    (file : Registry.ofFile d.read inv.rules = .ok registry) :
    (({ inv with format }.run d).1.exit = (inv.run d).1.exit ∧
        ({ inv with format }.run d).2 = (inv.run d).2) ↔
      d.write path registry.analyze.2.markdown = .ok d := by
  have loaded := readRegistry_eq_ok_iff.2 file
  have loaded' : readRegistry { inv with format } d.read = .ok registry :=
    readRegistry_eq_ok_iff.2 file
  cases asked : inv.format with
  | text =>
    have other : format = .json := by cases format <;> simp_all
    exact run_report_same_iff asked other command command loaded loaded'
  | json =>
    have other : format = .text := by cases format <;> simp_all
    exact (and_congr eq_comm eq_comm).trans
      (run_report_same_iff other asked command command loaded' loaded)

end Report

/-- A command ends in the same way and changes the directory in the same way in either form, unless
it comes to write the coverage report to a file. -/
theorem Invocation.run_format_iff (inv : Invocation) (format : Format) (d : Directory) :
    (({ inv with format }.run d).1.exit = (inv.run d).1.exit ∧
        ({ inv with format }.run d).2 = (inv.run d).2) ↔
      (format ≠ inv.format → ∀ path, inv.command = .report (some path) →
        ∀ registry, Registry.ofFile d.read inv.rules = .ok registry →
          d.write path registry.analyze.2.markdown = .ok d) := by
  constructor
  · exact fun same differ path command registry file =>
      (run_report_format_iff differ command file).1 same
  intro unchanged
  by_cases differ : format = inv.format
  · subst differ
    exact ⟨rfl, rfl⟩
  by_cases report : ∃ path registry, inv.command = .report (some path) ∧
      Registry.ofFile d.read inv.rules = .ok registry
  · obtain ⟨path, registry, command, file⟩ := report
    exact (run_report_format_iff differ command file).2
      (unchanged differ path command registry file)
  · refine run_of_related ((inv.alike_format format).related_steps d.read (.inr ?_)).reply
    exact fun path command registry loaded =>
      report ⟨path, registry, command, readRegistry_eq_ok_iff.1 loaded⟩

/-- **Asking for another form of output** changes nothing but what is printed, as long as no
coverage report is to be written to a file. It is written as text only, so that the exit code and
the files are the same if they are so after writing it. -/
theorem run_of_reformatted {args args' : List String} {inv : Invocation}
    (h : Reformatted args args') (parsed : Invocation.parse args = .ok inv) :
    ∃ format, Invocation.parse args' = .ok { inv with format } ∧ ∀ d,
      ((run args' d).1.exit = (run args d).1.exit ∧ (run args' d).2 = (run args d).2) ↔
        (format ≠ inv.format → ∀ path, inv.command = .report (some path) →
          ∀ registry, Registry.ofFile d.read inv.rules = .ok registry →
            d.write path registry.analyze.2.markdown = .ok d) := by
  obtain ⟨format, parsed'⟩ := Invocation.exists_parse_of_reformatted h parsed
  refine ⟨format, parsed', fun d => ?_⟩
  rw [run_of_parse parsed, run_of_parse parsed']
  exact inv.run_format_iff format d

/-- A snapshot of the sample is written in either form, by the general theorem. -/
theorem run_of_reformatted_snapshot :
    (run ["--rules", "rules.json", "snapshot", "--output=json", "--out", "cases.json"]
        sampleDirectory).1.exit =
      (run ["--rules", "rules.json", "snapshot", "--output=text", "--out", "cases.json"]
        sampleDirectory).1.exit ∧
    (run ["--rules", "rules.json", "snapshot", "--output=json", "--out", "cases.json"]
        sampleDirectory).2 =
      (run ["--rules", "rules.json", "snapshot", "--output=text", "--out", "cases.json"]
        sampleDirectory).2 := by
  have other : Reformatted
      ["--rules", "rules.json", "snapshot", "--output=text", "--out", "cases.json"]
      ["--rules", "rules.json", "snapshot", "--output=json", "--out", "cases.json"] :=
    .cons (by decide) (.cons (by decide) (.cons (by decide) (.joined .text .json
      (.cons (by decide) (.cons (by decide) .nil)))))
  have parsed : Invocation.parse
      ["--rules", "rules.json", "snapshot", "--output=text", "--out", "cases.json"] =
    .ok ⟨.text, false, "rules.json", .snapshot "cases.json" false⟩ := rfl
  obtain ⟨_, -, same⟩ := run_of_reformatted other parsed
  exact (same sampleDirectory).2 fun _ _ command => by cases command

/-- Asks for the coverage report of the sample in a file. -/
def sampleReport (f : Format) (out : String) : List String :=
  ["--output", f.name, "--rules", "rules.json", "report", "--out", out]

/-- The coverage report of the sample is written to a file as text and not as JSON, and only as text
it can fail to be written. -/
theorem run_sampleReport_ne :
    (Reformatted (sampleReport .text "r.md") (sampleReport .json "r.md") ∧
      ¬((run (sampleReport .json "r.md") sampleDirectory).1.exit =
          (run (sampleReport .text "r.md") sampleDirectory).1.exit ∧
        (run (sampleReport .json "r.md") sampleDirectory).2 =
          (run (sampleReport .text "r.md") sampleDirectory).2)) ∧
    Reformatted (sampleReport .text "/tmp") (sampleReport .json "/tmp") ∧
      ¬((run (sampleReport .json "/tmp") sampleDirectory).1.exit =
          (run (sampleReport .text "/tmp") sampleDirectory).1.exit ∧
        (run (sampleReport .json "/tmp") sampleDirectory).2 =
          (run (sampleReport .text "/tmp") sampleDirectory).2) := by
  have other (out : String) (more : out ≠ "--") :
      Reformatted (sampleReport .text out) (sampleReport .json out) :=
    .separate .text .json (.cons (by decide) (.cons (by decide) (.cons (by decide)
      (.cons (by decide) (.cons more .nil)))))
  obtain ⟨registry, loaded, -⟩ := ofJson_sampleDocument
  have same_iff (out : String)
      (parsed : ∀ f, Invocation.parse (sampleReport f out) =
        .ok ⟨f, false, "rules.json", .report (some out)⟩) :
      ((run (sampleReport .json out) sampleDirectory).1.exit =
          (run (sampleReport .text out) sampleDirectory).1.exit ∧
        (run (sampleReport .json out) sampleDirectory).2 =
          (run (sampleReport .text out) sampleDirectory).2) ↔
        sampleDirectory.write out registry.analyze.2.markdown = .ok sampleDirectory := by
    have read (f : Format) : readRegistry ⟨f, false, "rules.json", .report (some out)⟩
        sampleDirectory.read = .ok registry :=
      readRegistry_eq _ read_sampleDirectory parse?_sampleDocument loaded
    rw [run_of_parse (parsed .json), run_of_parse (parsed .text)]
    exact run_report_same_iff rfl rfl rfl rfl (read .text) (read .json)
  refine ⟨⟨other _ (by decide), fun same => ?_⟩, other _ (by decide), fun same => ?_⟩
  · have new (text : String) : sampleDirectory.write "r.md" text =
      .ok ⟨sampleDirectory.files ++ [(["r.md"], some text)]⟩ := rfl
    have written := (same_iff "r.md" (fun f => by cases f <;> rfl)).1 same
    rw [new] at written
    simpa using congrArg Directory.files (Except.ok.inj written)
  · cases (same_iff "/tmp" (fun f => by cases f <;> rfl)).1 same

/-! ## Quiet commands -/

theorem Invocation.alike_quiet (inv : Invocation) :
    Alike (fun o o' => o' = ⟨o.exit, "", ""⟩) inv { inv with quiet := true } where
  rules := rfl
  command := rfl
  print exit text document := by
    rw [Output.exit_print]
    rfl
  failWith lines document := by
    rw [Output.exit_failWith]
    rfl

/-- A quiet command prints nothing, and apart from that it does what it does otherwise. -/
theorem Invocation.run_quiet (inv : Invocation) (d : Directory) :
    { inv with quiet := true }.run d = (⟨(inv.run d).1.exit, "", ""⟩, (inv.run d).2) := by
  have related := (inv.alike_quiet.related_steps d.read (.inl rfl)).reply
  obtain ⟨printed, directory⟩ := run_of_related related
  exact Prod.ext printed directory

/-- **Keeping a command quiet** changes nothing but that nothing is printed. The option for it can
be given in front of any command line that is not quiet yet, and wherever it is added, the command
line asks for the same command. -/
theorem run_hushed {args : List String} {inv : Invocation}
    (parsed : Invocation.parse args = .ok inv) (d : Directory) :
    (∀ args', Invocation.parse args' = .ok { inv with quiet := true } →
      run args' d = (⟨(run args d).1.exit, "", ""⟩, (run args d).2)) ∧
    (∀ args' inv', Hushed args args' → Invocation.parse args' = .ok inv' →
      inv' = { inv with quiet := true }) ∧
    (inv.quiet = false →
      Invocation.parse ("--quiet" :: args) = .ok { inv with quiet := true }) := by
  refine ⟨fun args' parsed' => ?_, fun args' inv' h parsed' => ?_,
    Invocation.parse_quiet_cons parsed⟩
  · rw [run_of_parse parsed, run_of_parse parsed']
    exact inv.run_quiet d
  · obtain ⟨_, again, same⟩ := Invocation.exists_parse_of_hushed h parsed'
    obtain rfl := Except.ok.inj (parsed.symm.trans again)
    exact same

/-- A snapshot of the sample is written quietly, by the general theorem. -/
theorem run_hushed_snapshot :
    run ["--rules", "rules.json", "snapshot", "--quiet", "--out", "cases.json"] sampleDirectory =
      (⟨(run ["--rules", "rules.json", "snapshot", "--out", "cases.json"]
          sampleDirectory).1.exit, "", ""⟩,
        (run ["--rules", "rules.json", "snapshot", "--out", "cases.json"] sampleDirectory).2) := by
  have parsed : Invocation.parse ["--rules", "rules.json", "snapshot", "--out", "cases.json"] =
    .ok ⟨.text, false, "rules.json", .snapshot "cases.json" false⟩ := rfl
  exact (run_hushed parsed sampleDirectory).1 _ rfl

end RuleActivation.CommandLine
