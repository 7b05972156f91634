import RuleActivation.Rule.Node

/-!
# Where the leaves of a tree are

The leaves of a tree stand at the positions that lead to conditions, and they are listed in the
order of these positions. A position therefore has one leaf at most.

## Main results

* `Node.mem_leaves_iff`: the leaves are the conditions that positions lead to
* `Node.pairwise_leaves_lt`: the leaves are listed in the order of their positions
* `Node.mem_leaves_inj`: a position has one leaf at most
-/

namespace RuleActivation

@[simp] theorem Position.indices_child (p : Position) (i : Nat) :
    (p.child i).indices = p.indices ++ [i] := rfl

theorem Position.indices_child_append (p : Position) (i : Nat) (path : List Nat) :
    (p.child i).indices ++ path = p.indices ++ i :: path :=
  (List.append_cons p.indices i path).symm

theorem Position.ext {p q : Position} (h : p.indices = q.indices) : p = q := by
  cases p
  cases q
  exact congrArg _ h

theorem Children.exists_get?_of_mem {cs : Children} {n : Node} (mem : n ∈ cs.toList) :
    ∃ i, cs.get? i = some n := by
  obtain ⟨i, found⟩ := List.mem_iff_getElem?.1 mem
  exact ⟨i, by rw [get?_eq_getElem?, found]⟩

theorem Children.mem_of_get? {cs : Children} {i : Nat} {n : Node} (child : cs.get? i = some n) :
    n ∈ cs.toList := by
  rw [get?_eq_getElem?] at child
  exact List.mem_of_getElem? child

theorem Children.lt_of_get? {cs : Children} {i : Nat} {n : Node} (child : cs.get? i = some n) :
    i < cs.toList.length := by
  rw [get?_eq_getElem?] at child
  exact (List.getElem?_eq_some_iff.1 child).1

namespace Node

variable {p q : Position} {c d : Condition}

/-! ## Following indices -/

@[simp] theorem follow_nil (n : Node) : n.follow [] = some n := by
  cases n <;> rfl

@[simp] theorem follow_leaf_cons (c : Condition) (i : Nat) (path : List Nat) :
    (leaf c).follow (i :: path) = none := rfl

theorem follow_junction_cons (k : Connective) (cs : Children) (i : Nat) (path : List Nat) :
    (junction k cs).follow (i :: path) = (cs.get? i).bind (·.follow path) := rfl

theorem follow_of_get? {k : Connective} {cs : Children} {i : Nat} {n : Node}
    (child : cs.get? i = some n) (path : List Nat) :
    (junction k cs).follow (i :: path) = n.follow path := by
  rw [follow_junction_cons, child, Option.bind_some]

theorem follow_leaf_eq_leaf_iff {path : List Nat} :
    (leaf d).follow path = some (leaf c) ↔ path = [] ∧ d = c := by
  cases path with
  | nil => simp
  | cons i path => simp

/-! ## Membership -/

mutual

/-- The leaves are the conditions to which paths from the node lead, under the positions of these
paths. -/
theorem mem_leavesAt_iff (n : Node) {p : Position} :
    (q, c) ∈ n.leavesAt p ↔
      ∃ path, q.indices = p.indices ++ path ∧ n.follow path = some (leaf c) := by
  match n with
  | .leaf d =>
    rw [leavesAt, List.mem_singleton, Prod.mk.injEq]
    constructor
    · rintro ⟨rfl, rfl⟩
      exact ⟨[], (List.append_nil _).symm, rfl⟩
    · rintro ⟨path, place, found⟩
      obtain ⟨rfl, rfl⟩ := follow_leaf_eq_leaf_iff.1 found
      exact ⟨Position.ext (by simpa using place), rfl⟩
  | .junction k cs =>
    rw [leavesAt, mem_childLeaves_iff cs]
    constructor
    · rintro ⟨i, path, place, found⟩
      exact ⟨i :: path, by simpa using place, found⟩
    · rintro ⟨path, place, found⟩
      cases path with
      | nil => simp at found
      | cons i path => exact ⟨i, path, by simpa using place, found⟩

theorem mem_childLeaves_iff (cs : Children) {p : Position} {index : Nat} :
    (q, c) ∈ childLeaves p index cs ↔ ∃ i path, q.indices = p.indices ++ (index + i) :: path ∧
      (cs.get? i).bind (·.follow path) = some (leaf c) := by
  match cs with
  | .one n =>
    rw [childLeaves, mem_leavesAt_iff n]
    constructor
    · rintro ⟨path, place, found⟩
      exact ⟨0, path, by simpa using place, found⟩
    · rintro ⟨i, path, place, found⟩
      cases i with
      | zero => exact ⟨path, by simpa using place, found⟩
      | succ i => cases found
  | .more n rest =>
    rw [childLeaves, List.mem_append, mem_leavesAt_iff n, mem_childLeaves_iff rest]
    constructor
    · rintro (⟨path, place, found⟩ | ⟨i, path, place, found⟩)
      · exact ⟨0, path, by simpa using place, found⟩
      · exact ⟨i + 1, path, by rw [place]; congr 2; omega, found⟩
    · rintro ⟨i, path, place, found⟩
      cases i with
      | zero => exact .inl ⟨path, by simpa using place, found⟩
      | succ i => exact .inr ⟨i, path, by rw [place]; congr 2; omega, found⟩

end

/-- The leaves of a tree are the conditions that positions lead to. -/
theorem mem_leaves_iff {n : Node} : (p, c) ∈ n.leaves ↔ n.get? p = some (leaf c) := by
  rw [leaves, mem_leavesAt_iff, get?]
  constructor
  · rintro ⟨path, place, found⟩
    rwa [place]
  · intro found
    exact ⟨p.indices, rfl, found⟩

/-- A position has one leaf at most. -/
theorem mem_leaves_inj {n : Node} (hc : (p, c) ∈ n.leaves) (hd : (p, d) ∈ n.leaves) : c = d := by
  rw [mem_leaves_iff] at hc hd
  rw [hc] at hd
  cases hd
  rfl

/-! ## Order -/

mutual

theorem pairwise_leavesAt_lt (n : Node) (p : Position) :
    (n.leavesAt p).Pairwise fun a b => a.1.indices < b.1.indices := by
  match n with
  | .leaf c => exact List.pairwise_singleton _ _
  | .junction k cs => exact pairwise_childLeaves_lt cs p 0

theorem pairwise_childLeaves_lt (cs : Children) (p : Position) (index : Nat) :
    (childLeaves p index cs).Pairwise fun a b => a.1.indices < b.1.indices := by
  match cs with
  | .one n => exact pairwise_leavesAt_lt n _
  | .more n rest =>
    refine List.pairwise_append.2
      ⟨pairwise_leavesAt_lt n _, pairwise_childLeaves_lt rest p _, ?_⟩
    rintro ⟨q, c⟩ first ⟨r, d⟩ later
    obtain ⟨path, hq, -⟩ := (mem_leavesAt_iff n).1 first
    obtain ⟨i, path', hr, -⟩ := (mem_childLeaves_iff rest).1 later
    rw [Position.indices_child_append] at hq
    show q.indices < r.indices
    rw [hq, hr]
    apply List.append_left_lt
    exact List.cons_lt_cons_iff.2 (.inl (by omega))

end

/-- The leaves of a tree are listed in the order of their positions. -/
theorem pairwise_leaves_lt (n : Node) :
    n.leaves.Pairwise fun a b => a.1.indices < b.1.indices := pairwise_leavesAt_lt n .root

end Node

end RuleActivation
