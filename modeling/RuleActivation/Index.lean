/-!
# Indexes

An index tells where a key stands in a list of keys, so that the list need not be searched. It grows
with the list: a new key is entered with its position.

## Main definitions

* `Index`: the positions of keys
* `Index.get?`, `Index.insert`: one key
* `Index.Covers`: the index of a list of keys

## Main results

* `Index.Covers.insert`: an index that grows with its list
* `Index.Covers.nodup`: keys with an index are distinct
-/

namespace RuleActivation

/-- Positions of keys. -/
structure Index (κ : Type) where
  entries : List (κ × Nat)

namespace Index

variable {κ : Type} [DecidableEq κ]

/-- The index without keys. -/
def empty : Index κ := ⟨[]⟩

instance : EmptyCollection (Index κ) := ⟨empty⟩

/-- The position of a key. -/
def get? (index : Index κ) (key : κ) : Option Nat := index.entries.lookup key

/-- The index with a position for a key. -/
def insert (index : Index κ) (key : κ) (position : Nat) : Index κ :=
  ⟨(key, position) :: index.entries⟩

@[simp] theorem get?_empty (key : κ) : (∅ : Index κ).get? key = none := rfl

@[simp] theorem get?_insert (index : Index κ) (key other : κ) (position : Nat) :
    (index.insert key position).get? other =
      if other = key then some position else index.get? other := by
  rw [get?, insert, List.lookup_cons, get?]
  by_cases h : other = key
  · simp [h]
  · simp [h, beq_eq_false_iff_ne.2 h]

/-! ## The index of a list -/

/-- An index covers a list of keys if it has a position for each key in the list, where the key
stands, and for no other key. -/
def Covers (index : Index κ) (keys : List κ) : Prop :=
  ∀ key i, index.get? key = some i ↔ keys[i]? = some key

namespace Covers

variable {index : Index κ} {keys : List κ} {key : κ}

theorem empty : Covers ∅ ([] : List κ) := by simp [Covers]

theorem get?_eq_none (h : index.Covers keys) : index.get? key = none ↔ key ∉ keys := by
  rw [List.mem_iff_getElem?, Option.eq_none_iff_forall_ne_some, not_exists]
  exact forall_congr' fun i => not_congr (h key i)

/-- A list with a new key at its end is covered by the index with the position of this key. -/
theorem insert (h : index.Covers keys) (new : index.get? key = none) :
    Covers (index.insert key keys.length) (keys ++ [key]) := by
  have absent : key ∉ keys := h.get?_eq_none.1 new
  intro other i
  rw [get?_insert, List.getElem?_append, List.getElem?_singleton]
  split
  · rename_i same
    subst same
    grind
  · rw [h other i]
    grind

/-- The keys of a list with an index are distinct. -/
theorem nodup (h : index.Covers keys) : keys.Nodup := by
  rw [List.nodup_iff_pairwise_ne, List.pairwise_iff_getElem]
  intro i j hi hj before same
  have first : index.get? keys[i] = some i := (h _ i).2 (List.getElem?_eq_getElem hi)
  have second : index.get? keys[i] = some j := (h _ j).2 (same ▸ List.getElem?_eq_getElem hj)
  have : i = j := Option.some.inj (first.symm.trans second)
  omega

end Covers

end Index

end RuleActivation
