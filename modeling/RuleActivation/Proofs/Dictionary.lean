import Mathlib.Data.List.Sort
import RuleActivation.Dictionary

/-!
# Entries of dictionaries

## Main results

* `ofList_entries`: a dictionary is made of its entries
* `mem_of_mem_entries_ofList`: building a dictionary makes no entries up
* `get?_map`: looking a key up among replaced values
* `mem_entries_iff`: the entries are the keys with their values
* `exists_mem_entries_ofList`: building a dictionary loses no keys
* `nodup_keys`, `mem_keys_ofList`: the keys of a dictionary
* `ext_get?`: a dictionary is what looking its keys up tells
-/

namespace RuleActivation.Dictionary

variable {α β : Type}

theorem ext {d e : Dictionary α} (h : d.entries = e.entries) : d = e := by
  match d, e, h with
  | ⟨_, _⟩, ⟨_, _⟩, rfl => rfl

/-! ## Building from entries -/

theorem insertEntry_append (key : String) (value : α) {entries : List (String × α)}
    (h : ∀ entry ∈ entries, entry.1 < key) :
    insertEntry key value entries = entries ++ [(key, value)] := by
  induction entries with
  | nil => rfl
  | cons entry entries ih =>
    obtain ⟨first, others⟩ := List.forall_mem_cons.1 h
    have after : ¬ key < entry.1 := String.lt_asymm first
    rw [insertEntry, if_neg after, if_pos first, ih others, List.cons_append]

theorem entries_foldl_insert (d : Dictionary α) {entries : List (String × α)}
    (h : (d.entries ++ entries).Pairwise fun a b => a.1 < b.1) :
    (entries.foldl (fun d entry => d.insert entry.1 entry.2) d).entries = d.entries ++ entries := by
  induction entries generalizing d with
  | nil => simp
  | cons entry entries ih =>
    have last : (d.insert entry.1 entry.2).entries = d.entries ++ [entry] :=
      insertEntry_append _ _ fun e he =>
        (List.pairwise_append.1 h).2.2 e he entry List.mem_cons_self
    have regroup : d.entries ++ entry :: entries =
        (d.insert entry.1 entry.2).entries ++ entries := by
      rw [last, List.append_assoc, List.singleton_append]
    rw [List.foldl_cons, ih (d.insert entry.1 entry.2) (regroup ▸ h), regroup]

/-- A dictionary is made of its entries. -/
theorem ofList_entries (d : Dictionary α) : ofList d.entries = d :=
  ext (entries_foldl_insert ∅ d.sorted)

/-- A dictionary has no other entries than those it is built from. -/
theorem mem_of_mem_entries_ofList {entry : String × α} {entries : List (String × α)}
    (h : entry ∈ (ofList entries).entries) : entry ∈ entries := by
  have gathered (d : Dictionary α) (entries : List (String × α))
      (mem : entry ∈ (entries.foldl (fun d e => d.insert e.1 e.2) d).entries) :
      entry ∈ d.entries ∨ entry ∈ entries := by
    induction entries generalizing d with
    | nil => exact .inl mem
    | cons e es ih =>
      rcases ih _ mem with old | later
      · rcases mem_insertEntry old with rfl | old
        · exact .inr List.mem_cons_self
        · exact .inl old
      · exact .inr (List.mem_cons_of_mem _ later)
  exact (gathered ∅ entries h).resolve_left List.not_mem_nil

/-! ## Looking keys up -/

/-- Looking a key up among replaced values. -/
@[simp] theorem get?_map (f : α → β) (d : Dictionary α) (key : String) :
    (d.map f).get? key = (d.get? key).map f := by
  have lookup (entries : List (String × α)) :
      (entries.map fun entry => (entry.1, f entry.2)).lookup key =
        (entries.lookup key).map f := by
    induction entries with
    | nil => rfl
    | cons entry entries ih =>
      rw [List.map_cons, lookup_cons_eq_if, ih, ← Prod.eta entry, lookup_cons_eq_if]
      split <;> rfl
  exact lookup d.entries

theorem lookup_eq_some_of_mem {entries : List (String × α)} {key : String} {value : α}
    (sorted : entries.Pairwise fun a b => a.1 < b.1) (h : (key, value) ∈ entries) :
    entries.lookup key = some value := by
  induction entries with
  | nil => cases h
  | cons entry entries ih =>
    obtain ⟨first, others⟩ := List.pairwise_cons.1 sorted
    rw [← Prod.eta entry, lookup_cons_eq_if]
    rcases List.mem_cons.1 h with rfl | later
    · exact if_pos rfl
    · have other : key ≠ entry.1 := (String.ne_of_lt (first _ later)).symm
      rw [if_neg other, ih others later]

theorem mem_of_lookup_eq_some {entries : List (String × α)} {key : String} {value : α}
    (h : entries.lookup key = some value) : (key, value) ∈ entries := by
  induction entries with
  | nil => cases h
  | cons entry entries ih =>
    rw [← Prod.eta entry, lookup_cons_eq_if] at h
    split at h
    · rename_i same
      obtain rfl := Option.some.inj h
      exact List.mem_cons.2 (.inl (by rw [same]))
    · exact List.mem_cons_of_mem _ (ih h)

/-- The entries are the keys with their values. -/
theorem mem_entries_iff {d : Dictionary α} {key : String} {value : α} :
    (key, value) ∈ d.entries ↔ d.get? key = some value :=
  ⟨lookup_eq_some_of_mem d.sorted, mem_of_lookup_eq_some⟩

/-- A dictionary has every key that it is built from. -/
theorem exists_mem_entries_ofList {entry : String × α} {entries : List (String × α)}
    (h : entry ∈ entries) : ∃ value, (entry.1, value) ∈ (ofList entries).entries := by
  have kept (d : Dictionary α) (entries : List (String × α))
      (given : (d.get? entry.1).isSome ∨ entry ∈ entries) :
      ((entries.foldl (fun d e => d.insert e.1 e.2) d).get? entry.1).isSome := by
    induction entries generalizing d with
    | nil => exact given.resolve_right List.not_mem_nil
    | cons e es ih =>
      refine ih _ ?_
      rw [get?_insert]
      split
      · exact .inl rfl
      · rename_i other
        refine given.imp_right fun mem => (List.mem_cons.1 mem).resolve_left ?_
        exact fun same => other (same ▸ rfl)
  obtain ⟨value, found⟩ := Option.isSome_iff_exists.1 (kept ∅ entries (.inr h))
  exact ⟨value, mem_entries_iff.2 found⟩

/-- Each key stands in a dictionary once. -/
theorem nodup_keys (d : Dictionary α) : d.keys.Nodup := by
  rw [keys, List.nodup_iff_pairwise_ne, List.pairwise_map]
  exact d.sorted.imp fun below => String.ne_of_lt below

/-- The keys of a dictionary are those that it is built from. -/
theorem mem_keys_ofList {key : String} {entries : List (String × α)} :
    key ∈ (ofList entries).keys ↔ key ∈ entries.map Prod.fst := by
  simp only [keys, List.mem_map]
  constructor
  · rintro ⟨entry, mem, rfl⟩
    exact ⟨entry, mem_of_mem_entries_ofList mem, rfl⟩
  · rintro ⟨entry, mem, rfl⟩
    obtain ⟨value, there⟩ := exists_mem_entries_ofList mem
    exact ⟨_, there, rfl⟩

instance : Std.Irrefl fun a b : String × α => a.1 < b.1 := ⟨fun a => String.lt_irrefl a.1⟩

instance : Std.Antisymm fun a b : String × α => a.1 < b.1 :=
  ⟨fun _ _ below above => absurd above (String.lt_asymm below)⟩

/-- Dictionaries that give all keys the same values are the same. -/
theorem ext_get? {d e : Dictionary α} (h : ∀ key, d.get? key = e.get? key) : d = e := by
  refine ext (d.sorted.eq_of_mem_iff e.sorted fun entry => ?_)
  rw [← Prod.eta entry, mem_entries_iff, mem_entries_iff, h]

end RuleActivation.Dictionary
