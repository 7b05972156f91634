/-!
# Dictionaries

A dictionary holds its entries in the order of their keys, each key once. The order of keys is
the order of their code points.

## Main definitions

* `Dictionary`: the entries and their order
* `Dictionary.insert`, `Dictionary.erase`, `Dictionary.get?`: one key
* `Dictionary.ofList`: the entries of a list, of equal keys the last one

## Main results

* `get?_insert`, `get?_erase`: looking a key up after a change
-/

namespace RuleActivation

/-- A finite map from text keys, as a sorted list of entries. -/
structure Dictionary (α : Type) where
  entries : List (String × α)
  sorted : entries.Pairwise fun a b => a.1 < b.1

namespace Dictionary

variable {α : Type}

/-! ## Sorted lists of entries -/

/-- The entries with `key` set to `value`. -/
def insertEntry (key : String) (value : α) : List (String × α) → List (String × α)
  | [] => [(key, value)]
  | (k, v) :: rest =>
    if key < k then (key, value) :: (k, v) :: rest
    else if k < key then (k, v) :: insertEntry key value rest
    else (key, value) :: rest

theorem mem_insertEntry {key : String} {value : α} {entries : List (String × α)}
    {entry : String × α} (h : entry ∈ insertEntry key value entries) :
    entry = (key, value) ∨ entry ∈ entries := by
  induction entries with
  | nil => simpa [insertEntry] using h
  | cons head rest ih =>
    obtain ⟨k, v⟩ := head
    simp only [insertEntry] at h
    split at h
    · simpa using h
    · split at h
      · rcases List.mem_cons.1 h with h | h
        · exact .inr (by simp [h])
        · exact (ih h).imp_right (List.mem_cons_of_mem _)
      · rcases List.mem_cons.1 h with h | h
        · exact .inl h
        · exact .inr (List.mem_cons_of_mem _ h)

theorem sorted_insertEntry (key : String) (value : α) {entries : List (String × α)}
    (h : entries.Pairwise fun a b => a.1 < b.1) :
    (insertEntry key value entries).Pairwise fun a b => a.1 < b.1 := by
  induction entries with
  | nil => simp [insertEntry]
  | cons head rest ih =>
    obtain ⟨k, v⟩ := head
    obtain ⟨first, later⟩ := List.pairwise_cons.1 h
    simp only [insertEntry]
    split
    · rename_i below
      refine List.pairwise_cons.2 ⟨fun e he => ?_, h⟩
      rcases List.mem_cons.1 he with he | he
      · exact he ▸ below
      · exact String.lt_trans below (first e he)
    · rename_i notBelow
      split
      · rename_i above
        refine List.pairwise_cons.2 ⟨fun e he => ?_, ih later⟩
        rcases mem_insertEntry he with he | he
        · exact he ▸ above
        · exact first e he
      · rename_i notAbove
        have same : key = k := String.le_antisymm notAbove notBelow
        exact List.pairwise_cons.2 ⟨fun e he => same ▸ first e he, later⟩

/-! ## Dictionaries -/

/-- The dictionary without entries. -/
def empty : Dictionary α := ⟨[], .nil⟩

instance : EmptyCollection (Dictionary α) := ⟨empty⟩

instance : Inhabited (Dictionary α) := ⟨∅⟩

/-- The dictionary with `key` set to `value`. -/
def insert (d : Dictionary α) (key : String) (value : α) : Dictionary α :=
  ⟨insertEntry key value d.entries, sorted_insertEntry key value d.sorted⟩

/-- The dictionary without `key`. -/
def erase (d : Dictionary α) (key : String) : Dictionary α :=
  ⟨d.entries.filter (·.1 != key), d.sorted.filter _⟩

/-- The value of a key. -/
def get? (d : Dictionary α) (key : String) : Option α := d.entries.lookup key

/-- Whether a key has a value. -/
def contains (d : Dictionary α) (key : String) : Bool := (d.get? key).isSome

/-- The number of entries. -/
def size (d : Dictionary α) : Nat := d.entries.length

/-- The keys, in order. -/
def keys (d : Dictionary α) : List String := d.entries.map (·.1)

/-- The entries of a list; of equal keys the last one counts. -/
def ofList (entries : List (String × α)) : Dictionary α :=
  entries.foldl (fun d entry => d.insert entry.1 entry.2) ∅

/-- The dictionary of the same keys with their values replaced. -/
def map {β : Type} (f : α → β) (d : Dictionary α) : Dictionary β :=
  ⟨d.entries.map fun entry => (entry.1, f entry.2), by
    simpa [List.pairwise_map] using d.sorted⟩

/-! ## Looking keys up -/

@[simp] theorem get?_empty (key : String) : (∅ : Dictionary α).get? key = none := rfl

theorem lookup_cons_eq_if (key other : String) (value : α) (entries : List (String × α)) :
    ((key, value) :: entries).lookup other =
      if other = key then some value else entries.lookup other := by
  rw [List.lookup_cons]
  by_cases h : other = key
  · simp [h]
  · simp [h, beq_eq_false_iff_ne.2 h]

theorem lookup_insertEntry (key other : String) (value : α) (entries : List (String × α)) :
    (insertEntry key value entries).lookup other =
      if other = key then some value else entries.lookup other := by
  induction entries with
  | nil => rw [insertEntry, lookup_cons_eq_if]
  | cons head rest ih =>
    obtain ⟨k, v⟩ := head
    simp only [insertEntry]
    split
    · rw [lookup_cons_eq_if]
    · rename_i notBelow
      split
      · rename_i above
        have differ : k ≠ key := fun h => String.lt_irrefl key (h ▸ above)
        rw [lookup_cons_eq_if, lookup_cons_eq_if, ih]
        by_cases h : other = k
        · simp [h, differ]
        · simp [h]
      · rename_i notAbove
        have same : key = k := String.le_antisymm notAbove notBelow
        rw [lookup_cons_eq_if, lookup_cons_eq_if, same]
        by_cases h : other = k <;> simp [h]

/-- Setting a key changes the value of this key only. -/
@[simp] theorem get?_insert (d : Dictionary α) (key other : String) (value : α) :
    (d.insert key value).get? other = if other = key then some value else d.get? other :=
  lookup_insertEntry key other value d.entries

theorem lookup_filter_key (key other : String) (entries : List (String × α)) :
    (entries.filter (·.1 != key)).lookup other =
      if other = key then none else entries.lookup other := by
  induction entries with
  | nil => simp
  | cons head rest ih =>
    obtain ⟨k, v⟩ := head
    by_cases hk : k = key
    · rw [List.filter_cons_of_neg (by simp [hk]), ih, lookup_cons_eq_if, hk]
      by_cases h : other = key <;> simp [h]
    · rw [List.filter_cons_of_pos (by simp [hk]), lookup_cons_eq_if, lookup_cons_eq_if, ih]
      by_cases h : other = k
      · simp [h, hk]
      · simp [h]

/-- Removing a key removes the value of this key only. -/
@[simp] theorem get?_erase (d : Dictionary α) (key other : String) :
    (d.erase key).get? other = if other = key then none else d.get? other :=
  lookup_filter_key key other d.entries

end Dictionary

end RuleActivation
