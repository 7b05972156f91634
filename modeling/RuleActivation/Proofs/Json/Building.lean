import RuleActivation.Proofs.Json.Rereading

/-!
# What has been built is read back

The builder opens no more containers than it may, and it makes no object that begins with the key
for numbers. So the printed form of a value that it has built is read back as this value.

## Main definitions

* `Frame.Stable`, `Around`: open containers in which every value is read back
* `Build.Stable`: states of the builder in which every value is read back

## Main results

* `Build.Stable.step`, `Build.Stable.run`: one token, and all of them
* `reread_of_take`: a value at the start of a sequence of tokens is read back
-/

namespace RuleActivation.Json

/-! ## Items and members -/

theorem rereadItems_eq_self_iff {depth : Nat} {items : List Json} :
    rereadItems depth items = some items ↔ ∀ v ∈ items, v.reread depth = some v := by
  induction items with
  | nil => simp [rereadItems]
  | cons v vs ih =>
    rw [rereadItems, List.forall_mem_cons, ← ih]
    cases v.reread depth with
    | none => simp
    | some w => cases rereadItems depth vs <;> simp

theorem rereadMembers_eq_self_iff {depth : Nat} {members : List (String × Json)} :
    rereadMembers depth members = some members ↔ ∀ m ∈ members, m.2.reread depth = some m.2 := by
  induction members with
  | nil => simp [rereadMembers]
  | cons m ms ih =>
    obtain ⟨key, v⟩ := m
    rw [rereadMembers, List.forall_mem_cons, ← ih]
    cases v.reread depth with
    | none => simp
    | some w => cases rereadMembers depth ms <;> simp

theorem reread_array_eq_self_iff {depth : Nat} {items : List Json} :
    (array items).reread (depth + 1) = some (array items) ↔
      ∀ v ∈ items, v.reread depth = some v := by
  rw [reread, ← rereadItems_eq_self_iff]
  cases rereadItems depth items <;> simp

/-- An object that the builder has made of members that are read back is read back. -/
theorem reread_of_objectOf? {depth : Nat} {members : List (String × Json)} {v : Json}
    (made : Build.objectOf? members = some v)
    (stable : ∀ m ∈ members, m.2.reread depth = some m.2) :
    v.reread (depth + 1) = some v := by
  match members with
  | [] =>
    cases made
    rfl
  | (key, w) :: ms =>
    by_cases reserved : key = numberKey
    · subst reserved
      obtain ⟨n, rfl⟩ := Build.exists_number_of_objectOf? made
      rfl
    · obtain rfl := Option.some.inj ((Build.objectOf?_of_ne reserved w ms).symm.trans made)
      rw [reread, rereadMembers_eq_self_iff.2 stable, Option.bind_some, made]

/-! ## Open containers -/

/-- An open container in which every value is read back, where `depth` more containers may be
opened. -/
def Frame.Stable (depth : Nat) : Frame → Prop
  | .array items => ∀ v ∈ items, v.reread depth = some v
  | .object members _ => ∀ m ∈ members, m.2.reread depth = some m.2

/-- Containers that are open inside each other, in all of which every value is read back. Where
`limit` containers may be open at once, `depth` more may be opened. -/
inductive Around (limit : Nat) : (depth : Nat) → List Frame → Prop where
  | outside : Around limit limit []
  | inside {depth : Nat} {f : Frame} {around : List Frame} (outer : Around limit (depth + 1) around)
    (inner : f.Stable depth) : Around limit depth (f :: around)

namespace Build

variable {limit depth : Nat} {around : List Frame} {v : Json} {state next : Build}

theorem length_add_of_around (h : Around limit depth around) : around.length + depth = limit := by
  induction h with
  | outside => exact Nat.zero_add limit
  | inside _ _ ih =>
    rw [List.length_cons]
    omega

/-- States of the builder in which every value is read back. -/
def Stable (limit : Nat) : Build → Prop
  | value around => ∃ depth, Around limit depth around
  | firstItem around | firstMember around => ∃ depth, Around limit (depth + 1) around
  | nextItem items around =>
    ∃ depth, Around limit (depth + 1) around ∧ ∀ v ∈ items, v.reread depth = some v
  | nextMember members around | memberKey members around | colon members _ around =>
    ∃ depth, Around limit (depth + 1) around ∧ ∀ m ∈ members, m.2.reread depth = some m.2
  | complete v => v.reread limit = some v

/-! ## Tokens -/

theorem stable_supply (h : Around limit depth around) (stable : v.reread depth = some v) :
    (supply v around).Stable limit := by
  cases h with
  | outside => exact stable
  | @inside _ f _ outer inner =>
    cases f with
    | array items => exact ⟨depth, outer, List.forall_mem_cons.2 ⟨stable, inner⟩⟩
    | object members key => exact ⟨depth, outer, List.forall_mem_cons.2 ⟨stable, inner⟩⟩

/-- A container that has been opened is inside of one more than before. -/
theorem exists_around_of_enter (h : Around limit depth around)
    (opened : enter (.full limit) around state = some next) :
    next = state ∧ ∃ deeper, Around limit (deeper + 1) around := by
  rw [enter, Strictness.admits] at opened
  split at opened
  · rename_i room
    have counted := length_add_of_around h
    obtain ⟨deeper, rfl⟩ : ∃ deeper, depth = deeper + 1 :=
      ⟨depth - 1, by simp only [decide_eq_true_eq] at room; omega⟩
    exact ⟨(Option.some.inj opened).symm, deeper, h⟩
  · cases opened

theorem Stable.begin {t : Token} (h : Around limit depth around)
    (goes : Build.begin (.full limit) around t = some next) : next.Stable limit := by
  cases t with
  | null | bool _ | number _ =>
    cases goes
    exact stable_supply h (by rw [reread])
  | string pieces =>
    obtain ⟨s, -, rfl⟩ := Option.map_eq_some_iff.1 goes
    exact stable_supply h (by rw [reread])
  | openArray | openObject =>
    obtain ⟨rfl, opened⟩ := exists_around_of_enter h goes
    exact opened
  | _ => cases goes

/-- A token leaves every value as it can be read back. -/
theorem Stable.step {t : Token} (stable : state.Stable limit)
    (goes : Build.step (.full limit) state t = some next) : next.Stable limit := by
  unfold Build.step at goes
  split at goes
  · obtain ⟨depth, around⟩ := stable
    exact Stable.begin around goes
  · cases goes
    obtain ⟨depth, around⟩ := stable
    exact stable_supply around (reread_array_eq_self_iff.2 nofun)
  · obtain ⟨depth, around⟩ := stable
    exact Stable.begin (.inside around (f := .array []) nofun) goes
  · cases goes
    obtain ⟨depth, around, items⟩ := stable
    exact ⟨depth, .inside around items⟩
  · cases goes
    obtain ⟨depth, around, items⟩ := stable
    exact stable_supply around (reread_array_eq_self_iff.2 (by simpa using items))
  · cases goes
    obtain ⟨depth, around⟩ := stable
    exact stable_supply around rfl
  · obtain ⟨key, -, rfl⟩ := Option.map_eq_some_iff.1 goes
    obtain ⟨depth, around⟩ := stable
    exact ⟨depth, around, List.forall_mem_nil _⟩
  · cases goes
    exact stable
  · obtain ⟨w, made, rfl⟩ := Option.map_eq_some_iff.1 goes
    obtain ⟨depth, around, members⟩ := stable
    exact stable_supply around (reread_of_objectOf? made (by simpa using members))
  · obtain ⟨key, -, rfl⟩ := Option.map_eq_some_iff.1 goes
    exact stable
  · cases goes
    obtain ⟨depth, around, members⟩ := stable
    exact ⟨depth, .inside around members⟩
  · cases goes

/-- The value that is complete in the end is read back. -/
theorem Stable.run {tokens rest : List Lexeme} (stable : state.Stable limit)
    (h : Build.run (.full limit) state tokens = .ok (v, rest)) : v.reread limit = some v := by
  -- on the tokens, for any stable state: each of them leads to another one
  induction tokens generalizing state with
  | nil =>
    cases state with
    | complete w =>
      cases h
      exact stable
    | _ => cases h
  | cons t tokens ih =>
    by_cases complete : ∃ w, state = .complete w
    · obtain ⟨w, rfl⟩ := complete
      cases h
      exact stable
    · obtain ⟨next, goes, later⟩ := exists_step_of_run h (not_exists.1 complete)
      exact ih (stable.step goes) later

end Build

/-- A value that has been read is read back. -/
theorem reread_of_take {limit : Nat} {tokens rest : List Lexeme} {v : Json}
    (h : take (.full limit) tokens = .ok (v, rest)) : v.reread limit = some v :=
  have start : (Build.value []).Stable limit := ⟨limit, .outside⟩
  start.run h

end RuleActivation.Json
