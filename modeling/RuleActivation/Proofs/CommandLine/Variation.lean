import RuleActivation.Proofs.CommandLine.Arguments

/-!
# Command lines that differ in a global option

An option that concerns every command can be given with another value, or it can be added. The
command stays the same: what is read from the command line is read in the same way, and the option
that has changed is not one of the command's own.

## Main definitions

* `Reformatted`: command lines that differ in the form of the output
* `Hushed`: a command line, and one with the option that keeps it quiet

## Main results

* `Invocation.exists_parse_of_reformatted`: the same in another form
* `Invocation.exists_parse_of_hushed`, `Invocation.parse_quiet_cons`: the same quietly
-/

namespace RuleActivation.CommandLine

open Arguments

/-! ## Options that concern every command -/

namespace Arguments

/-- The same words, and the same options but for one of them. -/
structure AgreesOff (option : String) (a a' : Arguments) : Prop where
  words : a'.words = a.words
  others : ∀ name ≠ option, a'.get? name = a.get? name

/-- A command does not depend on the options that concern every command. -/
theorem AgreesOff.commandOf_eq {option : String} {a a' : Arguments} (h : AgreesOff option a a')
    (everywhere : (globalOptions.lookup option).isSome = true) (name : String) :
    commandOf name a' = commandOf name a := by
  have same (own : String) (only : globalOptions.lookup own = none) :
      a'.get? own = a.get? own := by
    refine h.others own ?_
    rintro rfl
    rw [only] at everywhere
    cases everywhere
  unfold commandOf has
  rw [h.words, same "env" rfl, same "trace" rfl, same "out" rfl, same "check" rfl]

end Arguments

/-! ## The form of the output -/

/-- The name of an output form. -/
def Format.name : Format → String
  | text => "text"
  | json => "json"

theorem Format.lookOf_name (f : Format) : Arguments.lookOf f.name = .word := by
  cases f <;> rfl

theorem Format.lookOf_joined (f : Format) :
    Arguments.lookOf ("--output=" ++ f.name) = .long "output" (some f.name) := by
  cases f <;> rfl

theorem Format.allows_name (f : Format) : ValueKind.format.allows f.name = true := by
  cases f <;> rfl

/-- Command lines that are the same but for the forms of output that they ask for. -/
inductive Reformatted : List String → List String → Prop where
  | nil : Reformatted [] []
  | words (rest : List String) : Reformatted ("--" :: rest) ("--" :: rest)
  | cons {arg : String} {args args' : List String} (more : arg ≠ "--")
      (others : Reformatted args args') : Reformatted (arg :: args) (arg :: args')
  | joined {args args' : List String} (f f' : Format) (others : Reformatted args args') :
      Reformatted (("--output=" ++ f.name) :: args) (("--output=" ++ f'.name) :: args')
  | separate {args args' : List String} (f f' : Format) (others : Reformatted args args') :
      Reformatted ("--output" :: f.name :: args) ("--output" :: f'.name :: args')

/-- The same setting, or two forms of output. -/
def Setting.Like (s s' : Setting) : Prop :=
  s' = s ∨ ∃ f f' : Format, s = ⟨"output", .format, f.name⟩ ∧ s' = ⟨"output", .format, f'.name⟩

theorem exists_of_reformatted_word {arg : String} {args args' : List String}
    (look : Arguments.lookOf arg = .word) (h : Reformatted (arg :: args) args') :
    ∃ others', args' = arg :: others' ∧ Reformatted (arg :: args) (arg :: others') ∧
      Reformatted args others' := by
  cases h with
  | words => cases look
  | cons more others => exact ⟨_, rfl, .cons more others, others⟩
  | joined f f' others => cases f.lookOf_joined.symm.trans look
  | separate => cases look

theorem eq_of_reformatted_words {args args' : List String} (h : Reformatted ("--" :: args) args') :
    args' = "--" :: args := by
  generalize same : "--" = arg at h
  cases h with
  | words => rfl
  | cons more others => exact absurd same.symm more
  | joined f f' others => cases (congrArg lookOf same).trans f.lookOf_joined
  | separate => exact absurd same (by decide)

theorem exists_like_of_spelledBy {side : Side} {s : Setting} {given args args' : List String}
    (spelled : s.SpelledBy side given) (h : Reformatted (given ++ args) args') :
    ∃ given' s' others', args' = given' ++ others' ∧ s'.SpelledBy side given' ∧ s.Like s' ∧
      Reformatted args others' := by
  cases spelled with
  | @flag arg name look known =>
    rw [List.singleton_append] at h
    cases h with
    | words => cases look
    | cons more others => exact ⟨[arg], _, _, rfl, .flag look known, .inl rfl, others⟩
    | joined f f' others => cases f.lookOf_joined.symm.trans look
    | separate f f' others =>
      cases look
      cases known
  | @joined arg name value kind look known valued =>
    rw [List.singleton_append] at h
    cases h with
    | words => cases look
    | cons more others => exact ⟨[arg], _, _, rfl, .joined look known valued, .inl rfl, others⟩
    | joined f f' others =>
      cases f.lookOf_joined.symm.trans look
      cases known
      exact ⟨_, _, _, List.singleton_append.symm, .joined f'.lookOf_joined rfl valued,
        .inr ⟨f, f', rfl, rfl⟩, others⟩
    | separate f f' others => cases look
  | @separate arg name value kind look known valued word =>
    rw [List.cons_append, List.singleton_append] at h
    cases h with
    | words => cases look
    | cons more others =>
      obtain ⟨_, rfl, -, others⟩ := exists_of_reformatted_word word others
      exact ⟨[arg, value], _, _, rfl, .separate look known valued word, .inl rfl, others⟩
    | joined f f' others => cases f.lookOf_joined.symm.trans look
    | separate f f' others =>
      cases look
      cases known
      exact ⟨["--output", f'.name], _, _, rfl, .separate rfl rfl valued f'.lookOf_name,
        .inr ⟨f, f', rfl, rfl⟩, others⟩

theorem exists_reads_of_reformatted {side : Side} {args args' words rest : List String}
    {settings : List Setting} (reads : side.Reads args settings words rest)
    (h : Reformatted args args') :
    ∃ settings' rest', side.Reads args' settings' words rest' ∧
      List.Forall₂ Setting.Like settings settings' ∧ Reformatted rest rest' := by
  induction reads generalizing args' with
  | done =>
    cases h
    exact ⟨[], [], .done, .nil, .nil⟩
  | words =>
    rw [eq_of_reformatted_words h]
    exact ⟨[], [], .words, .nil, .nil⟩
  | command look commands =>
    obtain ⟨_, rfl, same, -⟩ := exists_of_reformatted_word look h
    exact ⟨[], _, .command look commands, .nil, same⟩
  | word look commands reads ih =>
    obtain ⟨_, rfl, -, others⟩ := exists_of_reformatted_word look h
    obtain ⟨settings', rest', reads', like, same⟩ := ih others
    exact ⟨settings', rest', .word look commands reads', like, same⟩
  | setting spelled reads ih =>
    obtain ⟨_, s', _, rfl, spelled', first, others⟩ := exists_like_of_spelledBy spelled h
    obtain ⟨settings', rest', reads', like, same⟩ := ih others
    exact ⟨s' :: settings', rest', .setting spelled' reads', .cons first like, same⟩

namespace Setting.Like

variable {s s' : Setting}

theorem name_eq (h : s.Like s') : s.name = s'.name := by
  rcases h with rfl | ⟨f, f', rfl, rfl⟩ <;> rfl

theorem allowed (h : s.Like s') (good : s.kind.allows s.value = true) :
    s'.kind.allows s'.value = true := by
  rcases h with rfl | ⟨f, f', rfl, rfl⟩
  · exact good
  · exact f'.allows_name

theorem entry_eq (h : s.Like s') (other : s.name ≠ "output") : s'.entry = s.entry := by
  rcases h with rfl | ⟨f, f', rfl, rfl⟩
  · rfl
  · exact absurd rfl other

end Setting.Like

theorem lookup_entry_of_like {settings settings' : List Setting}
    (h : List.Forall₂ Setting.Like settings settings') {name : String} (other : name ≠ "output") :
    (settings'.map Setting.entry).lookup name = (settings.map Setting.entry).lookup name := by
  induction h with
  | nil => rfl
  | @cons s s' settings settings' first _ ih =>
    by_cases same : name = s.name
    · rw [List.map_cons, List.map_cons, List.lookup_cons, List.lookup_cons,
        first.entry_eq (same ▸ other), ih]
    · have same' : name ≠ s'.name := first.name_eq ▸ same
      simp [Setting.entry, List.lookup_cons, beq_false_of_ne same, beq_false_of_ne same', ih]

theorem Side.Admits.of_like {side : Side} {found : Arguments} {settings settings' : List Setting}
    {words : List String} (h : List.Forall₂ Setting.Like settings settings')
    (admitted : side.Admits found settings words) : side.Admits found settings' words where
  nodup := by
    have names : settings.map Setting.name = settings'.map Setting.name :=
      map_eq_map_of_forall₂ (h.imp fun _ _ => Setting.Like.name_eq)
    exact names ▸ admitted.nodup
  fresh s' mem := by
    obtain ⟨s, there, like⟩ := exists_mem_of_forall₂ h mem
    exact like.name_eq ▸ admitted.fresh s there
  allowed s' mem := by
    obtain ⟨s, there, like⟩ := exists_mem_of_forall₂ h mem
    exact like.allowed (admitted.allowed s there)
  placed := admitted.placed

/-- The same words are given, and the same options are set, but for the form of the output. -/
theorem Arguments.exists_scan_of_reformatted {side : Side} {args args' rest : List String}
    {a : Arguments} (h : Reformatted args args')
    (scanned : scan side none .empty args = .ok (a, rest)) :
    ∃ a' rest', scan side none .empty args' = .ok (a', rest') ∧ AgreesOff "output" a a' ∧
      Reformatted rest rest' := by
  obtain ⟨settings, words, reads, admitted, rfl⟩ := scan_eq_ok_iff.1 scanned
  obtain ⟨settings', rest', reads', like, same⟩ := exists_reads_of_reformatted reads h
  exact ⟨_, rest', scan_eq_ok_iff.2 ⟨settings', words, reads', admitted.of_like like, rfl⟩,
    ⟨rfl, fun name other => lookup_entry_of_like like other⟩, same⟩

namespace Invocation

/-- A command line that asks for another form of output asks for the same command in this form. -/
theorem exists_parse_of_reformatted {args args' : List String} {inv : Invocation}
    (h : Reformatted args args') (parsed : parse args = .ok inv) :
    ∃ format, parse args' = .ok { inv with format } := by
  obtain ⟨before, name, rest, side, after, command, scanned, known, scannedAfter, asked, rfl⟩ :=
    parse_eq_ok_iff.1 parsed
  obtain ⟨before', _, scanned', like, same⟩ := exists_scan_of_reformatted h scanned
  obtain ⟨rest', rfl, -, others⟩ :=
    exists_of_reformatted_word (lookOf_eq_word_of_lookup known) same
  obtain ⟨after', _, scannedAfter', likeAfter, nothing⟩ :=
    exists_scan_of_reformatted others scannedAfter
  cases nothing
  have asked' : commandOf name after' = .ok command := (likeAfter.commandOf_eq rfl name).trans asked
  refine ⟨(ofSides before' after' command).format, parse_eq_ok_iff.2
    ⟨before', name, rest', side, after', command, scanned', known, scannedAfter', asked', ?_⟩⟩
  simp only [ofSides, like.others "quiet" (by decide), like.others "rules" (by decide),
    likeAfter.others "quiet" (by decide), likeAfter.others "rules" (by decide)]

end Invocation

/-! ## Quiet command lines -/

theorem lookOf_quiet : lookOf "--quiet" = .long "quiet" none := rfl

theorem Side.kind?_quiet (side : Side) : side.kind? "quiet" = some .flag := rfl

/-- The option that keeps a command quiet. -/
def Setting.quiet : Setting := ⟨"quiet", .flag, ""⟩

/-- A command line, and one with the option that keeps it quiet somewhere among the options. -/
inductive Hushed : List String → List String → Prop where
  | here (args : List String) : Hushed args ("--quiet" :: args)
  | cons {arg : String} {args args' : List String} (more : arg ≠ "--")
      (others : Hushed args args') : Hushed (arg :: args) (arg :: args')

theorem hushed_append_cases {side : Side} {s : Setting} {given args args' : List String}
    (spelled : s.SpelledBy side given) (h : Hushed args (given ++ args')) :
    (s = .quiet ∧ args = args') ∨ ∃ others, args = given ++ others ∧ Hushed others args' := by
  cases spelled with
  | flag look known =>
    rw [List.singleton_append] at h
    cases h with
    | here =>
      cases look
      exact .inl ⟨rfl, rfl⟩
    | cons more others => exact .inr ⟨_, rfl, others⟩
  | joined look known valued =>
    rw [List.singleton_append] at h
    cases h with
    | here => cases look
    | cons more others => exact .inr ⟨_, rfl, others⟩
  | separate look known valued word =>
    rw [List.cons_append, List.singleton_append] at h
    cases h with
    | here =>
      cases look
      cases known
      exact absurd rfl valued
    | cons more others =>
      cases others with
      | here => cases word
      | cons more others => exact .inr ⟨_, rfl, others⟩

theorem not_hushed_words {args rest : List String} : ¬ Hushed args ("--" :: rest) := by
  intro h
  generalize same : "--" = arg at h
  cases h with
  | here => exact absurd same (by decide)
  | cons more others => exact more same.symm

/-- What has been read with the option that keeps a command quiet is read without it, or the option
stands after the name of the command. -/
theorem reads_of_hushed {side : Side} {args args' words rest' : List String}
    {settings' : List Setting} (reads : side.Reads args' settings' words rest')
    (h : Hushed args args') :
    (∃ before after, settings' = before ++ .quiet :: after ∧
        side.Reads args (before ++ after) words rest') ∨
      (side.commands = true ∧ ∃ rest, side.Reads args settings' words rest ∧ Hushed rest rest') := by
  induction reads generalizing args with
  | done => cases h
  | words => exact absurd h not_hushed_words
  | command look commands =>
    cases h with
    | here => cases look
    | cons more others => exact .inr ⟨commands, _, .command look commands, .cons more others⟩
  | word look commands reads ih =>
    cases h with
    | here => cases look
    | cons more others =>
      rcases ih others with ⟨before, after, rfl, loud⟩ | ⟨commands', -⟩
      · exact .inl ⟨before, after, rfl, .word look commands loud⟩
      · rw [commands] at commands'
        cases commands'
  | @setting _ _ _ _ s _ spelled reads ih =>
    rcases hushed_append_cases spelled h with ⟨rfl, rfl⟩ | ⟨others, rfl, inner⟩
    · exact .inl ⟨[], _, rfl, reads⟩
    · rcases ih inner with ⟨before, after, rfl, loud⟩ | ⟨commands, rest, loud, later⟩
      · exact .inl ⟨s :: before, after, rfl, .setting spelled loud⟩
      · exact .inr ⟨commands, rest, .setting spelled loud, later⟩

theorem Side.Admits.sublist {side : Side} {found : Arguments} {settings settings' : List Setting}
    {words : List String} (fewer : settings.Sublist settings')
    (admitted : side.Admits found settings' words) : side.Admits found settings words where
  nodup := admitted.nodup.sublist (fewer.map _)
  fresh s mem := admitted.fresh s (fewer.mem mem)
  allowed s mem := admitted.allowed s (fewer.mem mem)
  placed := admitted.placed

namespace Arguments

/-- The same words and the same options, but for the one that keeps a command quiet. -/
structure IsHushed (a a' : Arguments) : Prop extends AgreesOff "quiet" a a' where
  quiet : (a'.get? "quiet").isSome = true

theorem isHushed_adding (before after : List Setting) (words : List String) :
    IsHushed (empty.adding (before ++ after) words)
      (empty.adding (before ++ .quiet :: after) words) where
  words := rfl
  others name other := by
    simp only [get?_adding, List.map_append, List.map_cons, List.lookup_append]
    simp [Setting.entry, Setting.quiet, List.lookup_cons, beq_false_of_ne other]
  quiet := by
    simp only [get?_adding, List.map_append, List.map_cons, List.lookup_append]
    simp [Setting.entry, Setting.quiet]

theorem scan_of_hushed {side : Side} {args args' rest' : List String} {a' : Arguments}
    (h : Hushed args args') (scanned : scan side none .empty args' = .ok (a', rest')) :
    (∃ a, scan side none .empty args = .ok (a, rest') ∧ IsHushed a a') ∨
      (side.commands = true ∧
        ∃ rest, scan side none .empty args = .ok (a', rest) ∧ Hushed rest rest') := by
  obtain ⟨settings', words, reads, admitted, rfl⟩ := scan_eq_ok_iff.1 scanned
  rcases reads_of_hushed reads h with ⟨before, after, rfl, loud⟩ | ⟨commands, rest, loud, later⟩
  · have fewer : (before ++ after).Sublist (before ++ .quiet :: after) :=
      (List.Sublist.refl before).append (List.sublist_cons_self ..)
    exact .inl ⟨_, scan_eq_ok_iff.2 ⟨_, words, loud, admitted.sublist fewer, rfl⟩,
      isHushed_adding before after words⟩
  · exact .inr ⟨commands, rest, scan_eq_ok_iff.2 ⟨_, words, loud, admitted, rfl⟩, later⟩

theorem exists_scan_quiet_cons {side : Side} {args rest : List String} {a : Arguments}
    (scanned : scan side none .empty args = .ok (a, rest)) (loud : a.get? "quiet" = none) :
    ∃ a', scan side none .empty ("--quiet" :: args) = .ok (a', rest) ∧ IsHushed a a' := by
  obtain ⟨settings, words, reads, admitted, rfl⟩ := scan_eq_ok_iff.1 scanned
  have reads' : side.Reads ("--quiet" :: args) (.quiet :: settings) words rest :=
    .setting (.flag lookOf_quiet side.kind?_quiet) reads
  refine ⟨_, scan_eq_ok_iff.2 ⟨_, words, reads', ⟨?_, fun _ _ => rfl, ?_, admitted.placed⟩, rfl⟩,
    isHushed_adding [] settings words⟩
  · refine List.nodup_cons.2 ⟨fun mem => ?_, admitted.nodup⟩
    obtain ⟨s, there, same⟩ := List.mem_map.1 mem
    have := List.lookup_eq_none_iff.1 loud s.entry (List.mem_map_of_mem there)
    exact absurd same.symm (by simpa [Setting.entry, Setting.quiet] using this)
  · exact List.forall_mem_cons.2 ⟨rfl, admitted.allowed⟩

end Arguments

namespace Invocation

theorem ofSides_of_isHushed_before {before before' : Arguments} (h : IsHushed before before')
    (after : Arguments) (command : Command) :
    ofSides before' after command = { ofSides before after command with quiet := true } := by
  simp [ofSides, h.others "output" (by decide), h.others "rules" (by decide), h.quiet]

theorem ofSides_of_isHushed_after {after after' : Arguments} (h : IsHushed after after')
    (before : Arguments) (command : Command) :
    ofSides before after' command = { ofSides before after command with quiet := true } := by
  simp [ofSides, h.others "output" (by decide), h.others "rules" (by decide), h.quiet]

/-- Without the option that keeps it quiet, a command line asks for the same command. -/
theorem exists_parse_of_hushed {args args' : List String} {inv' : Invocation}
    (h : Hushed args args') (parsed' : parse args' = .ok inv') :
    ∃ inv, parse args = .ok inv ∧ inv' = { inv with quiet := true } := by
  obtain ⟨before', name, rest', side, after', command, scanned', known, scannedAfter', asked,
    rfl⟩ := parse_eq_ok_iff.1 parsed'
  rcases scan_of_hushed h scanned' with ⟨before, scanned, hushed⟩ | ⟨-, _, scanned, inner⟩
  · exact ⟨_, parse_eq_ok_iff.2 ⟨before, name, rest', side, after', command, scanned, known,
      scannedAfter', asked, rfl⟩, ofSides_of_isHushed_before hushed after' command⟩
  · cases inner with
    | here => cases known
    | @cons _ rest _ _ others =>
      rcases scan_of_hushed others scannedAfter' with
        ⟨after, scannedAfter, hushed⟩ | ⟨commands, -⟩
      · have asked : commandOf name after = .ok command :=
          (hushed.commandOf_eq rfl name).symm.trans asked
        exact ⟨_, parse_eq_ok_iff.2 ⟨before', name, rest, side, after, command, scanned, known,
          scannedAfter, asked, rfl⟩, ofSides_of_isHushed_after hushed before' command⟩
      · rw [commands_eq_false_of_lookup known] at commands
        cases commands

/-- A command that is not quiet yet can be asked for quietly. -/
theorem parse_quiet_cons {args : List String} {inv : Invocation} (parsed : parse args = .ok inv)
    (loud : inv.quiet = false) : parse ("--quiet" :: args) = .ok { inv with quiet := true } := by
  obtain ⟨before, name, rest, side, after, command, scanned, known, scannedAfter, asked, rfl⟩ :=
    parse_eq_ok_iff.1 parsed
  have free : after.get? "quiet" = none ∧ before.get? "quiet" = none := by
    simpa [ofSides] using loud
  obtain ⟨before', scanned', hushed⟩ := exists_scan_quiet_cons scanned free.2
  exact parse_eq_ok_iff.2 ⟨before', name, rest, side, after, command, scanned', known,
    scannedAfter, asked, (ofSides_of_isHushed_before hushed after command).symm⟩

end Invocation

end RuleActivation.CommandLine
