import RuleActivation.CommandLine.Arguments
import RuleActivation.Proofs.Dictionary
import RuleActivation.Proofs.Success

/-!
# Command lines that are accepted

What is read from one side of a command's name is a list of settings and a list of words. They are
accepted if no option is set twice, each value is allowed, and each word has a place, whatever their
order is.

## Main definitions

* `Setting.SpelledBy`, `Side.Reads`: the settings and words that arguments stand for
* `Side.Admits`: the settings and words that are accepted
* `Invocation.ofSides`: what is asked for by what has been accepted

## Main results

* `Arguments.scan_eq_ok_iff`: scanning reads settings and words, and accepts them
* `Invocation.parse_eq_ok_iff`: a command line is scanned on both sides of a command's name
-/

namespace RuleActivation.CommandLine

/-! ## Single arguments -/

namespace Arguments

theorem lookOf_eq_terminator_iff {arg : String} : lookOf arg = .terminator ↔ arg = "--" := by
  constructor
  · intro look
    unfold lookOf at look
    split at look
    · rename_i chars
      exact String.toList_inj.1 chars
    all_goals cases look
  · rintro rfl
    rfl

end Arguments

/-! ## Settings and words -/

/-- What an option takes, if there is such an option. -/
def Side.kind? (side : Side) (name : String) : Option ValueKind :=
  (globalOptions ++ side.options).lookup name

/-- An option with a value for it. -/
structure Setting where
  name : String
  kind : ValueKind
  value : String

namespace Setting

/-- The option with its value, as it is kept. -/
def entry (s : Setting) : String × String := (s.name, s.value)

open Arguments in
/-- The arguments that set an option: a flag, or an option with its value after an equals sign or
in the next argument. -/
inductive SpelledBy (side : Side) : List String → Setting → Prop where
  | flag {arg name : String} (look : lookOf arg = .long name none)
      (known : side.kind? name = some .flag) : SpelledBy side [arg] ⟨name, .flag, ""⟩
  | joined {arg name value : String} {kind : ValueKind}
      (look : lookOf arg = .long name (some value)) (known : side.kind? name = some kind)
      (valued : kind ≠ .flag) : SpelledBy side [arg] ⟨name, kind, value⟩
  | separate {arg name value : String} {kind : ValueKind} (look : lookOf arg = .long name none)
      (known : side.kind? name = some kind) (valued : kind ≠ .flag) (word : lookOf value = .word) :
      SpelledBy side [arg, value] ⟨name, kind, value⟩

end Setting

namespace Side

variable {side : Side}

open Arguments in
/-- The settings and words that arguments stand for, up to the name of a command. -/
inductive Reads (side : Side) :
    List String → List Setting → List String → List String → Prop where
  | done : Reads side [] [] [] []
  | words {rest : List String} : Reads side ("--" :: rest) [] rest []
  | command {arg : String} {rest : List String} (look : lookOf arg = .word)
      (commands : side.commands = true) : Reads side (arg :: rest) [] [] (arg :: rest)
  | word {arg : String} {args words rest : List String} {settings : List Setting}
      (look : lookOf arg = .word) (commands : side.commands = false)
      (others : Reads side args settings words rest) :
      Reads side (arg :: args) settings (arg :: words) rest
  | setting {given args words rest : List String} {s : Setting} {settings : List Setting}
      (spelled : s.SpelledBy side given) (others : Reads side args settings words rest) :
      Reads side (given ++ args) (s :: settings) words rest

/-- Settings and words are accepted after others: no option is set twice, each value is allowed,
and each word has a place. -/
structure Admits (side : Side) (found : Arguments) (settings : List Setting)
    (words : List String) : Prop where
  nodup : (settings.map Setting.name).Nodup
  fresh : ∀ s ∈ settings, found.get? s.name = none
  allowed : ∀ s ∈ settings, s.kind.allows s.value = true
  placed : ∀ i word, words[i]? = some word →
    ∃ kind, side.words[found.words.length + i]? = some kind ∧ kind.allows word = true

end Side

namespace Arguments

variable {side : Side} {found next : Arguments}

/-- The options and words with more of them. -/
def adding (found : Arguments) (settings : List Setting) (words : List String) : Arguments :=
  ⟨found.options ++ settings.map Setting.entry, found.words ++ words⟩

theorem adding_nil (found : Arguments) : found.adding [] [] = found := by
  simp [adding]

theorem get?_adding (found : Arguments) (settings : List Setting) (words : List String)
    (name : String) : (found.adding settings words).get? name =
      (found.get? name).or ((settings.map Setting.entry).lookup name) := List.lookup_append

theorem withOption_eq_ok_iff {s : Setting} :
    found.withOption s.name s.kind s.value = .ok next ↔
      found.get? s.name = none ∧ s.kind.allows s.value = true ∧ next = found.adding [s] [] := by
  unfold withOption
  split
  · rename_i refused
    refine ⟨nofun, fun ⟨fresh, allowed, _⟩ => ?_⟩
    simp [has, fresh, allowed] at refused
  · rename_i accepted
    simp only [has, Bool.or_eq_true, not_or, Bool.not_eq_true, Option.isSome_eq_false_iff,
      Option.isNone_iff_eq_none, Bool.not_eq_false'] at accepted
    simp [accepted.1, accepted.2, adding, Setting.entry, eq_comm]

theorem withWord_eq_ok_iff {word : String} :
    found.withWord side word = .ok next ↔
      (∃ kind, side.words[found.words.length]? = some kind ∧ kind.allows word = true) ∧
        next = found.adding [] [word] := by
  unfold withWord
  split
  · rename_i kind there
    simp only [there, Option.some.injEq, exists_eq_left']
    split
    · rename_i allowed
      simp [allowed, adding, eq_comm]
    · rename_i refused
      simp [refused]
  · rename_i full
    simp [full]

end Arguments

/-! ## Scanning -/

namespace Side

variable {side : Side} {found : Arguments} {s : Setting} {settings : List Setting}
  {word : String} {words : List String}

theorem admits_nil : Admits side found [] [] := ⟨.nil, nofun, nofun, nofun⟩

/-- A setting is accepted, and the others are accepted after it. -/
theorem admits_cons_setting_iff : Admits side found (s :: settings) words ↔
    (found.get? s.name = none ∧ s.kind.allows s.value = true) ∧
      Admits side (found.adding [s] []) settings words := by
  constructor
  · rintro ⟨nodup, fresh, allowed, placed⟩
    obtain ⟨new, nodup⟩ := List.nodup_cons.1 nodup
    obtain ⟨here, fresh⟩ := List.forall_mem_cons.1 fresh
    obtain ⟨good, allowed⟩ := List.forall_mem_cons.1 allowed
    refine ⟨⟨here, good⟩, nodup, fun t mem => ?_, allowed, ?_⟩
    · have other : t.name ≠ s.name := fun same => new (same ▸ List.mem_map_of_mem mem)
      rw [Arguments.get?_adding, fresh t mem]
      simp [Setting.entry, List.lookup_cons, beq_false_of_ne other]
    · simpa [Arguments.adding] using placed
  · rintro ⟨⟨here, good⟩, nodup, fresh, allowed, placed⟩
    have apart (t : Setting) (mem : t ∈ settings) :
        found.get? t.name = none ∧ t.name ≠ s.name := by
      have := fresh t mem
      rw [Arguments.get?_adding, Option.or_eq_none_iff] at this
      refine ⟨this.1, fun same => ?_⟩
      simp [Setting.entry, same] at this
    refine ⟨List.nodup_cons.2 ⟨fun mem => ?_, nodup⟩,
      List.forall_mem_cons.2 ⟨here, fun t mem => (apart t mem).1⟩,
      List.forall_mem_cons.2 ⟨good, allowed⟩, ?_⟩
    · obtain ⟨t, mem, same⟩ := List.mem_map.1 mem
      exact (apart t mem).2 same
    · simpa [Arguments.adding] using placed

/-- A word has a place, and the others have places after it. -/
theorem admits_cons_word_iff : Admits side found settings (word :: words) ↔
    (∃ kind, side.words[found.words.length]? = some kind ∧ kind.allows word = true) ∧
      Admits side (found.adding [] [word]) settings words := by
  have same (name : String) : (found.adding [] [word]).get? name = found.get? name := by
    rw [Arguments.get?_adding]
    exact Option.or_none
  have next (i : Nat) :
      (found.adding [] [word]).words.length + i = found.words.length + (i + 1) := by
    simp only [Arguments.adding, List.length_append, List.length_singleton]
    omega
  constructor
  · rintro ⟨nodup, fresh, allowed, placed⟩
    refine ⟨placed 0 word rfl, nodup, fun t mem => (same _).trans (fresh t mem), allowed,
      fun i other there => ?_⟩
    rw [next]
    exact placed (i + 1) other there
  · rintro ⟨here, nodup, fresh, allowed, placed⟩
    refine ⟨nodup, fun t mem => (same _).symm.trans (fresh t mem), allowed, fun i other there => ?_⟩
    cases i with
    | zero => exact Option.some.inj there ▸ here
    | succ i =>
      rw [← next]
      exact placed i other there

end Side

namespace Arguments

variable {side : Side} {found next : Arguments} {rest : List String}

theorem adding_cons_setting (found : Arguments) (s : Setting) (settings : List Setting)
    (words : List String) :
    found.adding (s :: settings) words = (found.adding [s] []).adding settings words := by
  simp [adding]

theorem adding_cons_word (found : Arguments) (settings : List Setting) (word : String)
    (words : List String) :
    found.adding settings (word :: words) = (found.adding [] [word]).adding settings words := by
  simp [adding]

/-- The words after two hyphens. -/
theorem foldlM_withWord_eq_ok_iff {words : List String} :
    words.foldlM (withWord · side) found = .ok next ↔
      side.Admits found [] words ∧ next = found.adding [] words := by
  induction words generalizing found with
  | nil =>
    rw [List.foldlM_nil, adding_nil]
    exact ⟨fun h => ⟨Side.admits_nil, (Except.ok.inj h).symm⟩, fun ⟨_, h⟩ => congrArg _ h.symm⟩
  | cons word words ih =>
    rw [List.foldlM_cons, bind_eq_ok_iff, Side.admits_cons_word_iff, adding_cons_word _ _ _ words]
    constructor
    · rintro ⟨_, added, others⟩
      obtain ⟨placed, rfl⟩ := withWord_eq_ok_iff.1 added
      obtain ⟨admitted, same⟩ := ih.1 others
      exact ⟨⟨placed, admitted⟩, same⟩
    · rintro ⟨⟨placed, admitted⟩, same⟩
      exact ⟨_, withWord_eq_ok_iff.2 ⟨placed, rfl⟩, ih.2 ⟨admitted, same⟩⟩

section LongOption

variable {name value : String} {kind : ValueKind}

theorem longOption_flag (known : side.kind? name = some .flag) :
    longOption side found name none = (found.withOption name .flag "").map (none, ·) := by
  unfold longOption
  rw [← Side.kind?, known]

theorem longOption_joined (known : side.kind? name = some kind) (valued : kind ≠ .flag) :
    longOption side found name (some value) = (found.withOption name kind value).map (none, ·) := by
  unfold longOption
  rw [← Side.kind?, known]
  cases kind with
  | flag => exact absurd rfl valued
  | text | path | format => rfl

theorem longOption_separate (known : side.kind? name = some kind) (valued : kind ≠ .flag) :
    longOption side found name none = .ok (some (name, kind), found) := by
  unfold longOption
  rw [← Side.kind?, known]
  cases kind with
  | flag => exact absurd rfl valued
  | text | path | format => rfl

end LongOption

theorem scan_nil : scan side none found [] = .ok (found, []) := by rw [scan]

theorem scan_words : scan side none found ("--" :: rest) =
    rest.foldlM (withWord · side) found >>= fun next => .ok (next, []) := by
  simp only [scan, lookOf_eq_terminator_iff.2]
  cases rest.foldlM (withWord · side) found <;> rfl

theorem scan_command {arg : String} (look : lookOf arg = .word)
    (commands : side.commands = true) :
    scan side none found (arg :: rest) = .ok (found, arg :: rest) := by
  simp only [scan, look, if_pos commands]

theorem scan_word {arg : String} (look : lookOf arg = .word) (commands : side.commands = false) :
    scan side none found (arg :: rest) =
      found.withWord side arg >>= fun next => scan side none next rest := by
  simp only [scan, look, commands]
  cases found.withWord side arg <;> rfl

theorem scan_long {arg name : String} {value : Option String}
    (look : lookOf arg = .long name value) : scan side none found (arg :: rest) =
      longOption side found name value >>= fun next => scan side next.1 next.2 rest := by
  simp only [scan, look]
  cases longOption side found name value <;> rfl

/-- Arguments that set an option are read together. -/
theorem scan_spelled {s : Setting} {given : List String} (spelled : s.SpelledBy side given) :
    scan side none found (given ++ rest) =
      found.withOption s.name s.kind s.value >>= fun next => scan side none next rest := by
  cases spelled with
  | flag look known =>
    rw [List.singleton_append, scan_long look, longOption_flag known]
    cases found.withOption _ _ _ <;> rfl
  | joined look known valued =>
    rw [List.singleton_append, scan_long look, longOption_joined known valued]
    cases found.withOption _ _ _ <;> rfl
  | @separate arg name value kind look known valued word =>
    rw [List.cons_append, scan_long look, longOption_separate known valued]
    change scan side (some (name, kind)) found (value :: rest) = _
    rw [scan, if_pos word]
    cases found.withOption _ _ _ <;> rfl

/-- A long option that is accepted is set by the arguments with which it begins. -/
theorem exists_spelledBy {arg name : String} {value : Option String}
    {result : Arguments × List String} (look : lookOf arg = .long name value)
    (h : scan side none found (arg :: rest) = .ok result) :
    ∃ given others s, arg :: rest = given ++ others ∧ Setting.SpelledBy side given s := by
  rw [scan_long look] at h
  cases known : side.kind? name with
  | none =>
    unfold longOption at h
    rw [← Side.kind?, known] at h
    cases h
  | some kind =>
    by_cases valued : kind = .flag
    · subst valued
      cases value with
      | none => exact ⟨[arg], rest, _, rfl, .flag look known⟩
      | some value =>
        unfold longOption at h
        rw [← Side.kind?, known] at h
        cases h
    · cases value with
      | some value => exact ⟨[arg], rest, _, rfl, .joined look known valued⟩
      | none =>
        rw [longOption_separate known valued] at h
        change scan side (some (name, kind)) found rest = .ok result at h
        cases rest with
        | nil => cases h
        | cons value rest =>
          rw [scan] at h
          split at h
          · rename_i word
            exact ⟨[arg, value], rest, _, rfl, .separate look known valued word⟩
          · cases h

theorem length_pos_of_spelledBy {s : Setting} {given : List String}
    (spelled : s.SpelledBy side given) : 0 < given.length := by
  cases spelled <;> exact Nat.succ_pos _

theorem exists_reads_of_scan {args : List String}
    (h : scan side none found args = .ok (next, rest)) :
    ∃ settings words, side.Reads args settings words rest ∧
      side.Admits found settings words ∧ next = found.adding settings words := by
  -- by induction on the number of arguments, as an option may take two of them
  induction size : args.length using Nat.strongRecOn generalizing args found with
  | ind n ih =>
    cases args with
    | nil =>
      rw [scan_nil] at h
      obtain ⟨rfl, rfl⟩ := Prod.mk.inj (Except.ok.inj h)
      exact ⟨[], [], .done, Side.admits_nil, (adding_nil _).symm⟩
    | cons arg args =>
      cases look : lookOf arg with
      | terminator =>
        obtain rfl := lookOf_eq_terminator_iff.1 look
        rw [scan_words] at h
        obtain ⟨_, added, h⟩ := bind_eq_ok_iff.1 h
        obtain ⟨rfl, rfl⟩ := Prod.mk.inj (Except.ok.inj h)
        exact ⟨[], args, .words, foldlM_withWord_eq_ok_iff.1 added⟩
      | short letter =>
        simp only [scan, look] at h
        cases h
      | long name value =>
        obtain ⟨given, others, s, split, spelled⟩ := exists_spelledBy look h
        rw [split, scan_spelled spelled] at h
        obtain ⟨_, set, h⟩ := bind_eq_ok_iff.1 h
        obtain ⟨fresh, allowed, rfl⟩ := withOption_eq_ok_iff.1 set
        have shorter : others.length < n := by
          have := length_pos_of_spelledBy spelled
          have := congrArg List.length split
          rw [size, List.length_append] at this
          omega
        obtain ⟨settings, words, reads, admitted, rfl⟩ := ih _ shorter h rfl
        exact ⟨s :: settings, words, split ▸ .setting spelled reads,
          Side.admits_cons_setting_iff.2 ⟨⟨fresh, allowed⟩, admitted⟩,
          (adding_cons_setting ..).symm⟩
      | word =>
        cases commands : side.commands with
        | true =>
          rw [scan_command look commands] at h
          obtain ⟨rfl, rfl⟩ := Prod.mk.inj (Except.ok.inj h)
          exact ⟨[], [], .command look commands, Side.admits_nil, (adding_nil _).symm⟩
        | false =>
          rw [scan_word look commands] at h
          obtain ⟨_, added, h⟩ := bind_eq_ok_iff.1 h
          obtain ⟨placed, rfl⟩ := withWord_eq_ok_iff.1 added
          obtain ⟨settings, words, reads, admitted, rfl⟩ :=
            ih _ (size ▸ Nat.lt_succ_self _) h rfl
          exact ⟨settings, arg :: words, .word look commands reads,
            Side.admits_cons_word_iff.2 ⟨placed, admitted⟩, (adding_cons_word ..).symm⟩

/-- **Scanning** reads settings and words, and accepts them. -/
theorem scan_eq_ok_iff {args : List String} :
    scan side none found args = .ok (next, rest) ↔
      ∃ settings words, side.Reads args settings words rest ∧
        side.Admits found settings words ∧ next = found.adding settings words := by
  refine ⟨exists_reads_of_scan, ?_⟩
  rintro ⟨settings, words, reads, admitted, rfl⟩
  induction reads generalizing found with
  | done => rw [adding_nil, scan_nil]
  | words =>
    rw [scan_words]
    exact bind_eq_ok_iff.2 ⟨_, foldlM_withWord_eq_ok_iff.2 ⟨admitted, rfl⟩, rfl⟩
  | command look commands => rw [adding_nil, scan_command look commands]
  | word look commands others ih =>
    obtain ⟨placed, admitted⟩ := Side.admits_cons_word_iff.1 admitted
    rw [scan_word look commands, adding_cons_word]
    exact bind_eq_ok_iff.2 ⟨_, withWord_eq_ok_iff.2 ⟨placed, rfl⟩, ih admitted⟩
  | setting spelled others ih =>
    obtain ⟨⟨fresh, allowed⟩, admitted⟩ := Side.admits_cons_setting_iff.1 admitted
    rw [scan_spelled spelled, adding_cons_setting]
    exact bind_eq_ok_iff.2 ⟨_, withOption_eq_ok_iff.2 ⟨fresh, allowed, rfl⟩, ih admitted⟩

end Arguments

/-! ## Invocations -/

open Arguments

theorem commands_eq_false_of_lookup {name : String} {side : Side}
    (known : commandTable.lookup name = some side) : side.commands = false := by
  have all : ∀ command ∈ commandTable, command.2.commands = false := by decide
  exact all _ (Dictionary.mem_of_lookup_eq_some known)

theorem lookOf_eq_word_of_lookup {name : String} {side : Side}
    (known : commandTable.lookup name = some side) : lookOf name = .word := by
  have all : ∀ command ∈ commandTable, lookOf command.1 = .word := by decide
  exact all _ (Dictionary.mem_of_lookup_eq_some known)

/-- Everything after the name of a command is read. -/
theorem rest_eq_nil_of_scan {side : Side} {args rest : List String} {found a : Arguments}
    (commands : side.commands = false) (scanned : scan side none found args = .ok (a, rest)) :
    rest = [] := by
  obtain ⟨settings, words, reads, -⟩ := scan_eq_ok_iff.1 scanned
  clear scanned
  induction reads with
  | done | words => rfl
  | command look commands' =>
    rw [commands] at commands'
    cases commands'
  | word _ _ _ ih | setting _ _ ih => exact ih

namespace Invocation

/-- What is asked for by what stands before and after the name of a command; what stands after it
counts first. -/
def ofSides (before after : Arguments) (command : Command) : Invocation where
  format := if (after.get? "output").or (before.get? "output") = some "json" then .json else .text
  quiet := ((after.get? "quiet").or (before.get? "quiet")).isSome
  rules := ((after.get? "rules").or (before.get? "rules")).getD "rules/corpus.json"
  command := command

theorem parse_eq_ok_iff {args : List String} {inv : Invocation} :
    parse args = .ok inv ↔ ∃ before name rest side after command,
      scan rootSide none .empty args = .ok (before, name :: rest) ∧
      commandTable.lookup name = some side ∧ scan side none .empty rest = .ok (after, []) ∧
      commandOf name after = .ok command ∧ inv = ofSides before after command := by
  unfold parse
  rw [bind_eq_ok_iff]
  constructor
  · rintro ⟨⟨before, rest⟩, scanned, h⟩
    cases rest with
    | nil => cases h
    | cons name rest =>
      cases known : commandTable.lookup name with
      | none =>
        simp only [known] at h
        cases h
      | some side =>
        simp only [known] at h
        obtain ⟨⟨after, tail⟩, scanned', h⟩ := bind_eq_ok_iff.1 h
        obtain ⟨command, asked, h⟩ := bind_eq_ok_iff.1 h
        obtain rfl := rest_eq_nil_of_scan (commands_eq_false_of_lookup known) scanned'
        exact ⟨before, name, rest, side, after, command, scanned, known, scanned', asked,
          (Except.ok.inj h).symm⟩
  · rintro ⟨before, name, rest, side, after, command, scanned, known, scanned', asked, rfl⟩
    refine ⟨_, scanned, ?_⟩
    simp only [known]
    exact bind_eq_ok_iff.2 ⟨_, scanned', bind_eq_ok_iff.2 ⟨_, asked, rfl⟩⟩

end Invocation

end RuleActivation.CommandLine
