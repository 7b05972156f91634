import RuleActivation.Proofs.Dictionary
import RuleActivation.Proofs.Json.Rereading

/-!
# How wide a read value is

No array of a value is longer than the text that the value is read from, because the scanner makes
hardly more tokens than there are characters, and the builder takes a token for every item.

## Main definitions

* `width`: the length of the longest array in a value
* `Build.Fits`: states of the builder in which nothing is wider than a bound

## Main results

* `length_scan_le`: the number of tokens of a text
* `Build.Fits.step`, `Build.Fits.run`: what a token, and a whole text, adds to the width
* `width_le_of_parse?`: the width of a read value
-/

namespace RuleActivation.Json

/-! ## Width -/

mutual

/-- The length of the longest array in a value. -/
def width : Json → Nat
  | array items => max items.length (widthItems items)
  | object members => widthMembers members
  | _ => 0

/-- The length of the longest array in the items of an array. -/
def widthItems : List Json → Nat
  | [] => 0
  | v :: vs => max v.width (widthItems vs)

/-- The length of the longest array in the members of an object. -/
def widthMembers : List (String × Json) → Nat
  | [] => 0
  | (_, v) :: rest => max v.width (widthMembers rest)

end

theorem widthItems_le {items : List Json} {n : Nat} :
    widthItems items ≤ n ↔ ∀ v ∈ items, v.width ≤ n := by
  induction items with
  | nil => simp [widthItems]
  | cons v vs ih => rw [widthItems, Nat.max_le, ih, List.forall_mem_cons]

@[simp] theorem width_array_le {items : List Json} {n : Nat} :
    (array items).width ≤ n ↔ items.length ≤ n ∧ ∀ v ∈ items, v.width ≤ n := by
  rw [width, Nat.max_le, widthItems_le]

theorem widthMembers_le {members : List (String × Json)} {n : Nat} :
    widthMembers members ≤ n ↔ ∀ m ∈ members, m.2.width ≤ n := by
  induction members with
  | nil => simp [widthMembers]
  | cons m ms ih => rw [widthMembers, Nat.max_le, ih, List.forall_mem_cons]

@[simp] theorem width_object_le {members : List (String × Json)} {n : Nat} :
    (object members).width ≤ n ↔ ∀ m ∈ members, m.2.width ≤ n := by
  rw [width, widthMembers_le]

/-! ## Tokens -/

namespace Scan

/-- Whether a token has been begun. -/
def begun : Scan → Nat
  | between | stopped => 0
  | word _ _ | text _ _ | escape _ _ | unit _ _ _ _ => 1

/-- A word makes a token, and another one if the scanner stops at it. -/
theorem length_finishWord_le (start : Text.Place) (letters : List Char) :
    (finishWord start letters).1.length ≤ 2 ∧
      ((finishWord start letters).2 = between → (finishWord start letters).1.length ≤ 1) ∧
      (finishWord start letters).2.begun = 0 := by
  unfold finishWord
  split
  · simp [stop, begun]
  · dsimp only
    split <;> simp [stop, begun]

theorem length_begin_le (place : Text.Place) (c : Char) :
    (begin place c).1.length + (begin place c).2.begun ≤ 1 := by
  unfold begin
  repeat' split
  all_goals simp [stop, begun]

/-- A character completes the token that has been begun, and makes one more or begins it. -/
theorem length_step_le (scan : Scan) (place : Text.Place) (c : Char) :
    (step scan place c).1.length + (step scan place c).2.begun ≤ scan.begun + 1 := by
  cases scan with
  | between => exact length_begin_le place c
  | word start letters =>
    have next := length_begin_le place c
    obtain ⟨atMostTwo, atMostOne, ended⟩ := length_finishWord_le start letters.reverse
    rw [step]
    split
    · simp [begun]
    · split
      · rename_i tokens word
        simp only [word, forall_const] at atMostOne
        change (tokens ++ (begin place c).1).length + (begin place c).2.begun ≤ 1 + 1
        rw [List.length_append]
        omega
      · rw [ended]
        exact atMostTwo
  | text start pieces =>
    rw [step]
    repeat' split
    all_goals simp [stop, begun]
  | escape start pieces =>
    rw [step]
    repeat' split
    all_goals simp [stop, begun]
  | unit start pieces digits value =>
    rw [step]
    repeat' split
    all_goals simp [stop, begun]
  | stopped => simp [step, begun]

theorem length_finish_le (scan : Scan) (place : Text.Place) :
    (finish scan place).length ≤ scan.begun + 1 := by
  cases scan with
  | word start letters =>
    obtain ⟨atMostTwo, atMostOne, -⟩ := length_finishWord_le start letters.reverse
    rw [finish]
    split
    · rename_i tokens word
      simp only [word, forall_const] at atMostOne
      simp only [begun, List.length_append, List.length_singleton]
      omega
    · rename_i word
      rw [word] at atMostTwo
      exact atMostTwo
  | _ => simp [finish, begun]

theorem length_run_le (found : List Lexeme) (scan : Scan) (place : Text.Place) (cs : List Char) :
    (run found scan place cs).length ≤ found.length + scan.begun + cs.length + 1 := by
  induction cs generalizing found scan place with
  | nil =>
    have := length_finish_le scan place
    simp only [run, List.length_append, List.length_reverse, List.length_nil]
    omega
  | cons c cs ih =>
    have one := length_step_le scan place c
    have others := ih ((step scan place c).1.reverse ++ found) (step scan place c).2 (place.next c)
    simp only [run, List.length_append, List.length_reverse, List.length_cons] at others ⊢
    omega

end Scan

/-- A text has at most one token more than it has characters. -/
theorem length_scan_le (text : String) : (scan text).length ≤ text.length + 1 := by
  have := Scan.length_run_le [] .between .start text.toList
  rw [String.length_toList] at this
  simpa [scan, Scan.begun] using this

/-! ## Building -/

/-- Open containers in which nothing is wider than `n`. -/
def Frame.Fits (n : Nat) : Frame → Prop
  | .array items => (Json.array items).width ≤ n
  | .object members _ => (Json.object members).width ≤ n

namespace Build

/-- States of the builder in which nothing is wider than `n`. -/
def Fits (n : Nat) : Build → Prop
  | value around | firstItem around | firstMember around => ∀ f ∈ around, f.Fits n
  | nextItem items around => (Json.array items).width ≤ n ∧ ∀ f ∈ around, f.Fits n
  | nextMember members around | memberKey members around | colon members _ around =>
    (Json.object members).width ≤ n ∧ ∀ f ∈ around, f.Fits n
  | complete v => v.width ≤ n

end Build

theorem Frame.Fits.succ {n : Nat} {f : Frame} (fits : f.Fits n) : f.Fits (n + 1) := by
  cases f <;> exact Nat.le_succ_of_le fits

namespace Build

variable {n : Nat} {mode : Strictness} {around : List Frame} {members : List (String × Json)}
  {v : Json} {state next : Build}

theorem fits_succ (fits : ∀ f ∈ around, f.Fits n) : ∀ f ∈ around, f.Fits (n + 1) :=
  fun f mem => (fits f mem).succ

/-- A value makes the innermost container longer by one. -/
theorem fits_supply (narrow : v.width ≤ n) (fits : ∀ f ∈ around, f.Fits n) :
    (supply v around).Fits (n + 1) := by
  match around, fits with
  | [], _ => exact Nat.le_succ_of_le narrow
  | .array items :: around, fits =>
    obtain ⟨first, others⟩ := List.forall_mem_cons.1 fits
    obtain ⟨short, items⟩ := width_array_le.1 first
    refine ⟨width_array_le.2 ⟨Nat.succ_le_succ short, ?_⟩, fits_succ others⟩
    exact List.forall_mem_cons.2
      ⟨Nat.le_succ_of_le narrow, fun w mem => Nat.le_succ_of_le (items w mem)⟩
  | .object members key :: around, fits =>
    obtain ⟨first, others⟩ := List.forall_mem_cons.1 fits
    refine ⟨width_object_le.2 (List.forall_mem_cons.2 ⟨Nat.le_succ_of_le narrow, ?_⟩),
      fits_succ others⟩
    exact fun m mem => Nat.le_succ_of_le (width_object_le.1 first m mem)

theorem width_le_of_objectOf? (h : objectOf? members = some v)
    (narrow : ∀ m ∈ members, m.2.width ≤ n) : v.width ≤ n := by
  unfold objectOf? at h
  split at h
  · cases h
    exact Nat.zero_le n
  · split at h
    · split at h
      · obtain ⟨_, -, rfl⟩ := Option.map_eq_some_iff.1 h
        exact Nat.zero_le n
      · cases h
    · cases h
      exact width_object_le.2 narrow

theorem eq_of_enter (h : enter mode around state = some next) : next = state := by
  rw [enter] at h
  split at h
  · exact (Option.some.inj h).symm
  · cases h

theorem Fits.begin {t : Token} (fits : ∀ f ∈ around, f.Fits n)
    (h : Build.begin mode around t = some next) : next.Fits (n + 1) := by
  cases t with
  | null | bool _ | number _ =>
    cases h
    exact fits_supply (Nat.zero_le n) fits
  | string pieces =>
    obtain ⟨s, -, rfl⟩ := Option.map_eq_some_iff.1 h
    exact fits_supply (Nat.zero_le n) fits
  | openArray | openObject =>
    obtain rfl := eq_of_enter h
    exact fits_succ fits
  | _ => cases h

/-- A token makes arrays longer by one item at most. -/
theorem Fits.step {t : Token} (fits : state.Fits n) (h : Build.step mode state t = some next) :
    next.Fits (n + 1) := by
  unfold Build.step at h
  split at h
  · exact Fits.begin fits h
  · cases h
    exact fits_supply (Nat.zero_le n) fits
  · refine Fits.begin (List.forall_mem_cons.2 ⟨?_, fits⟩) h
    exact width_array_le.2 ⟨Nat.zero_le n, by simp⟩
  · cases h
    exact fits_succ (List.forall_mem_cons.2 fits)
  · cases h
    obtain ⟨narrow, fits⟩ := fits
    exact fits_supply (by simpa using narrow) fits
  · cases h
    exact fits_supply (Nat.zero_le n) fits
  · obtain ⟨key, -, rfl⟩ := Option.map_eq_some_iff.1 h
    exact ⟨Nat.zero_le _, fits_succ fits⟩
  · cases h
    exact ⟨Nat.le_succ_of_le fits.1, fits_succ fits.2⟩
  · obtain ⟨w, object, rfl⟩ := Option.map_eq_some_iff.1 h
    obtain ⟨narrow, fits⟩ := fits
    refine fits_supply (width_le_of_objectOf? object ?_) fits
    simpa using narrow
  · obtain ⟨key, -, rfl⟩ := Option.map_eq_some_iff.1 h
    exact ⟨Nat.le_succ_of_le fits.1, fits_succ fits.2⟩
  · cases h
    exact fits_succ (List.forall_mem_cons.2 fits)
  · cases h

theorem Fits.run {tokens rest : List Lexeme} (fits : state.Fits n)
    (h : Build.run mode state tokens = .ok (v, rest)) : v.width ≤ n + tokens.length := by
  induction tokens generalizing state n with
  | nil =>
    cases state with
    | complete w =>
      cases h
      exact fits
    | _ => cases h
  | cons t tokens ih =>
    by_cases complete : ∃ w, state = .complete w
    · obtain ⟨w, rfl⟩ := complete
      cases h
      exact Nat.le_add_right_of_le fits
    · obtain ⟨next, goes, later⟩ := exists_step_of_run h (not_exists.1 complete)
      have := ih (fits.step goes) later
      rw [List.length_cons]
      omega

end Build

/-! ## Reading -/

mutual

/-- The canonical form has no new items. -/
theorem width_canonical_le (v : Json) : v.canonical.width ≤ v.width := by
  match v with
  | null | bool _ | number _ | string _ => exact Nat.le_refl _
  | array items =>
    obtain ⟨short, narrow⟩ := canonicalItems_le items
    exact width_array_le.2 ⟨Nat.le_trans short (Nat.le_max_left ..), fun w mem =>
      Nat.le_trans (narrow w mem) (Nat.le_max_right ..)⟩
  | object members =>
    exact width_object_le.2 fun m mem =>
      canonicalMembers_le members m (Dictionary.mem_of_mem_entries_ofList mem)

theorem canonicalItems_le (items : List Json) :
    (canonicalItems items).length ≤ items.length ∧
      ∀ v ∈ canonicalItems items, v.width ≤ widthItems items := by
  match items with
  | [] => exact ⟨Nat.le_refl 0, by simp [canonicalItems]⟩
  | w :: ws =>
    obtain ⟨short, narrow⟩ := canonicalItems_le ws
    refine ⟨Nat.succ_le_succ short, List.forall_mem_cons.2 ⟨?_, fun v mem => ?_⟩⟩
    · exact Nat.le_trans (width_canonical_le w) (Nat.le_max_left ..)
    · exact Nat.le_trans (narrow v mem) (Nat.le_max_right ..)

theorem canonicalMembers_le (members : List (String × Json)) :
    ∀ m ∈ canonicalMembers members, m.2.width ≤ widthMembers members := by
  match members with
  | [] => simp [canonicalMembers]
  | (key, w) :: ms =>
    refine List.forall_mem_cons.2 ⟨?_, fun m mem => ?_⟩
    · exact Nat.le_trans (width_canonical_le w) (Nat.le_max_left ..)
    · exact Nat.le_trans (canonicalMembers_le ms m mem) (Nat.le_max_right ..)

end

/-- A value that is read from a text is no wider than the text is long, but for the token at the
end. -/
theorem width_le_of_parse? {text : String} {v : Json} (h : parse? text = some v) :
    v.width ≤ text.length + 1 := by
  obtain ⟨w, read, rfl⟩ := Option.map_eq_some_iff.1 h
  unfold read? at read
  split at read
  · rename_i u rest taken
    split at read
    · obtain rfl := Option.some.inj read
      have fits : (Build.value []).Fits 0 := fun _ mem => absurd mem List.not_mem_nil
      have built := fits.run taken
      have scanned := length_scan_le text
      have kept := width_canonical_le u
      omega
    · cases read
  · cases read

end RuleActivation.Json
