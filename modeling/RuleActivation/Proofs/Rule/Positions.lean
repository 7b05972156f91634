import Mathlib.Data.Set.Card
import RuleActivation.Proofs.Rule.Leaves
import RuleActivation.Proofs.Synthesis.Cases

/-!
# The positions in a tree

A tree is asked in several ways: for its leaves, for the node at a position, for its number of
nodes, its depth and its variables. All of them speak of the same positions. There is one position
for each node, the longest leads to a leaf at the depth of the tree, and no leaf stands below
another one.

## Main definitions

* `Node.positions`: the positions of the nodes of a tree
* `Node.paths`: a list of them, as indices

## Main results

* `Node.mem_paths_iff`, `Node.nodup_paths`, `Node.length_paths`: the list has each position once
* `Node.length_lt_depth`, `Node.exists_length_succ_eq_depth`: the longest positions
* `Node.eq_of_isPrefix_of_mem_leaves`: no leaf stands below another one
* `Node.firstOccurrences_eq_filter`: names are kept at their first occurrence only
* `Node.charted_by_positions`: all of this
-/

namespace RuleActivation.Node

variable {n : Node} {p q : Position} {c d : Condition} {path : List Nat}

/-! ## All positions -/

/-- The positions of the nodes of a tree. -/
def positions (n : Node) : Set Position := {p | (n.get? p).isSome}

mutual

/-- The indices that lead to the nodes of a tree, where a node comes before its children. -/
def paths : Node → List (List Nat)
  | .leaf _ => [[]]
  | .junction _ cs => [] :: childPaths 0 cs

/-- The indices that lead to the nodes of some children, which are counted from an index on. -/
def childPaths (index : Nat) : Children → List (List Nat)
  | .one n => n.paths.map (index :: ·)
  | .more n rest => n.paths.map (index :: ·) ++ childPaths (index + 1) rest

end

mutual

/-- The list has the indices that lead to a node. -/
theorem mem_paths_iff (n : Node) {path : List Nat} : path ∈ n.paths ↔ (n.follow path).isSome := by
  match n with
  | .leaf c => cases path <;> simp [paths]
  | .junction k cs =>
    rw [paths, List.mem_cons, mem_childPaths_iff cs]
    cases path with
    | nil => simp
    | cons i rest => simp [follow_junction_cons]

theorem mem_childPaths_iff (cs : Children) {index : Nat} {path : List Nat} :
    path ∈ childPaths index cs ↔ ∃ i rest, path = (index + i) :: rest ∧
      ((cs.get? i).bind (·.follow rest)).isSome := by
  match cs with
  | .one n =>
    rw [childPaths, List.mem_map]
    constructor
    · rintro ⟨rest, mem, rfl⟩
      exact ⟨0, rest, rfl, (mem_paths_iff n).1 mem⟩
    · rintro ⟨i, rest, rfl, found⟩
      cases i with
      | zero => exact ⟨rest, (mem_paths_iff n).2 found, rfl⟩
      | succ i => cases found
  | .more n later =>
    rw [childPaths, List.mem_append, List.mem_map, mem_childPaths_iff later]
    constructor
    · rintro (⟨rest, mem, rfl⟩ | ⟨i, rest, rfl, found⟩)
      · exact ⟨0, rest, rfl, (mem_paths_iff n).1 mem⟩
      · exact ⟨i + 1, rest, by rw [Nat.add_right_comm, Nat.add_assoc], found⟩
    · rintro ⟨i, rest, rfl, found⟩
      cases i with
      | zero => exact .inl ⟨rest, (mem_paths_iff n).2 found, rfl⟩
      | succ i => exact .inr ⟨i, rest, by rw [Nat.add_right_comm, Nat.add_assoc], found⟩

end

mutual

/-- No indices are listed twice. -/
theorem nodup_paths (n : Node) : n.paths.Nodup := by
  match n with
  | .leaf c => exact List.nodup_singleton _
  | .junction k cs =>
    rw [paths, List.nodup_cons]
    refine ⟨fun mem => ?_, nodup_childPaths cs 0⟩
    obtain ⟨i, rest, same, -⟩ := (mem_childPaths_iff cs).1 mem
    cases same

theorem nodup_childPaths (cs : Children) (index : Nat) : (childPaths index cs).Nodup := by
  match cs with
  | .one n => exact (nodup_paths n).map List.cons_injective
  | .more n later =>
    rw [childPaths, List.nodup_append]
    refine ⟨(nodup_paths n).map List.cons_injective, nodup_childPaths later (index + 1), ?_⟩
    rintro _ first _ others rfl
    obtain ⟨rest, -, rfl⟩ := List.mem_map.1 first
    obtain ⟨i, rest', same, -⟩ := (mem_childPaths_iff later).1 others
    have := (List.cons.inj same).1
    omega

end

mutual

/-- There are as many positions as nodes. -/
theorem length_paths (n : Node) : n.paths.length = n.count := by
  match n with
  | .leaf c => rfl
  | .junction k cs => rw [paths, List.length_cons, length_childPaths cs, count, Nat.add_comm]

theorem length_childPaths (cs : Children) {index : Nat} :
    (childPaths index cs).length = countChildren cs := by
  match cs with
  | .one n => rw [childPaths, List.length_map, length_paths n, countChildren]
  | .more n later =>
    rw [childPaths, List.length_append, List.length_map, length_paths n, length_childPaths later,
      countChildren]

end

theorem mem_positions_iff : p ∈ n.positions ↔ p.indices ∈ n.paths := (mem_paths_iff n).symm

/-- The number of positions at which there is a node. -/
theorem ncard_positions (n : Node) : n.positions.ncard = n.count := by
  have injective : Function.Injective Position.mk := fun _ _ => congrArg Position.indices
  have listed : n.positions = ((n.paths.map Position.mk).toFinset : Set Position) := by
    ext p
    rw [mem_positions_iff, List.coe_toFinset, Set.mem_ofPred_eq, List.mem_map]
    constructor
    · intro mem
      exact ⟨p.indices, mem, rfl⟩
    · rintro ⟨path, mem, rfl⟩
      exact mem
  rw [listed, Set.ncard_coe_finset, List.toFinset_card_of_nodup ((nodup_paths n).map injective),
    List.length_map, length_paths]

/-! ## The longest positions -/

mutual

/-- A position has less indices than there are nodes on the longest way. -/
theorem length_lt_depth (n : Node) {path : List Nat} (mem : path ∈ n.paths) :
    path.length < n.depth := by
  match n with
  | .leaf c =>
    obtain rfl := List.mem_singleton.1 mem
    exact Nat.one_pos
  | .junction k cs =>
    rw [depth]
    rcases List.mem_cons.1 mem with rfl | below
    · exact Nat.lt_add_right _ Nat.one_pos
    · have := length_le_depthChildren cs below
      omega

theorem length_le_depthChildren (cs : Children) {index : Nat} {path : List Nat}
    (mem : path ∈ childPaths index cs) : path.length ≤ depthChildren cs := by
  match cs with
  | .one n =>
    obtain ⟨rest, there, rfl⟩ := List.mem_map.1 mem
    exact length_lt_depth n there
  | .more n later =>
    rw [depthChildren]
    rcases List.mem_append.1 mem with first | others
    · obtain ⟨rest, there, rfl⟩ := List.mem_map.1 first
      exact Nat.le_trans (length_lt_depth n there) (Nat.le_max_left _ _)
    · exact Nat.le_trans (length_le_depthChildren later others) (Nat.le_max_right _ _)

end

mutual

/-- Some position goes all the way down. -/
theorem exists_length_succ_eq_depth (n : Node) : ∃ path ∈ n.paths, path.length + 1 = n.depth := by
  match n with
  | .leaf c => exact ⟨[], List.mem_singleton_self _, rfl⟩
  | .junction k cs =>
    obtain ⟨path, mem, longest⟩ := exists_length_eq_depthChildren cs 0
    exact ⟨path, List.mem_cons_of_mem _ mem, by rw [longest, depth, Nat.add_comm]⟩

theorem exists_length_eq_depthChildren (cs : Children) (index : Nat) :
    ∃ path ∈ childPaths index cs, path.length = depthChildren cs := by
  match cs with
  | .one n =>
    obtain ⟨path, mem, longest⟩ := exists_length_succ_eq_depth n
    exact ⟨index :: path, List.mem_map_of_mem mem, longest⟩
  | .more n later =>
    rw [depthChildren]
    rcases Nat.le_total (depthChildren later) n.depth with first | others
    · obtain ⟨path, mem, longest⟩ := exists_length_succ_eq_depth n
      refine ⟨index :: path, List.mem_append_left _ (List.mem_map_of_mem mem), ?_⟩
      rw [Nat.max_eq_left first]
      exact longest
    · obtain ⟨path, mem, longest⟩ := exists_length_eq_depthChildren later (index + 1)
      refine ⟨path, List.mem_append_right _ mem, ?_⟩
      rw [Nat.max_eq_right others]
      exact longest

end

/-- The longest position has one index less than there are nodes on the longest way. -/
theorem isGreatest_depth (n : Node) :
    IsGreatest ((fun p : Position => p.indices.length + 1) '' n.positions) n.depth := by
  constructor
  · obtain ⟨path, mem, longest⟩ := exists_length_succ_eq_depth n
    exact ⟨⟨path⟩, mem_positions_iff.2 mem, longest⟩
  · rintro _ ⟨p, mem, rfl⟩
    exact length_lt_depth n (mem_positions_iff.1 mem)

/-! ## Leaves -/

theorem follow_append (n : Node) (path rest : List Nat) :
    n.follow (path ++ rest) = (n.follow path).bind (·.follow rest) := by
  induction path generalizing n with
  | nil => simp
  | cons i path ih =>
    cases n with
    | leaf c => rfl
    | junction k cs =>
      rw [List.cons_append, follow_junction_cons, follow_junction_cons, Option.bind_assoc]
      exact congrArg _ (funext ih)

/-- No leaf stands below another one. -/
theorem eq_of_isPrefix_of_mem_leaves (hp : (p, c) ∈ n.leaves) (hq : (q, d) ∈ n.leaves)
    (h : p.indices <+: q.indices) : p = q := by
  obtain ⟨rest, below⟩ := h
  rw [mem_leaves_iff, get?] at hp hq
  rw [← below, follow_append, hp, Option.bind_some, follow_leaf_eq_leaf_iff] at hq
  obtain ⟨rfl, -⟩ := hq
  exact Position.ext (by simpa using below)

/-! ## Variables -/

theorem firstOccurrences_concat (names : List String) (name : String) :
    firstOccurrences (names ++ [name]) =
      if name ∈ names then firstOccurrences names else firstOccurrences names ++ [name] := by
  have seen : (firstOccurrences names).contains name = true ↔ name ∈ names := by
    rw [List.contains_iff_mem, mem_firstOccurrences]
  conv_lhs => rw [firstOccurrences, List.foldl_concat, ← firstOccurrences]
  by_cases h : name ∈ names
  · rw [if_pos h, if_pos (seen.2 h)]
  · rw [if_neg h, if_neg (fun found => h (seen.1 found))]

/-- A name is kept where it has not occurred before, and nowhere else. -/
theorem firstOccurrences_eq_filter (names : List String) :
    firstOccurrences names =
      (names.zipIdx.filter fun entry => entry.1 ∉ names.take entry.2).map Prod.fst := by
  induction names using List.reverseRecOn with
  | nil => rfl
  | append_singleton names name ih =>
    have earlier : (names.zipIdx.filter fun entry => entry.1 ∉ (names ++ [name]).take entry.2) =
        names.zipIdx.filter fun entry => entry.1 ∉ names.take entry.2 := by
      apply List.filter_congr
      rintro ⟨other, i⟩ mem
      have inside : i < names.length := by simpa using List.snd_lt_of_mem_zipIdx mem
      rw [List.take_append_of_le_length (Nat.le_of_lt inside)]
    rw [firstOccurrences_concat, List.zipIdx_append, List.filter_append, List.map_append, earlier,
      ← ih]
    by_cases h : name ∈ names <;> simp [h]

/-! ## The chart of a tree -/

/-- The leaves of a tree are the conditions that positions lead to, they are listed in the order of
their positions, and none of them stands below another one. There are as many positions as the tree
has nodes, and the longest has one index less than the tree is deep. The variables are those of the
leaves, each where it occurs first. -/
theorem charted_by_positions (n : Node) :
    (∀ p c, (p, c) ∈ n.leaves ↔ n.get? p = some (.leaf c)) ∧
    (n.leaves.map Prod.fst).Pairwise (fun p q => p.indices < q.indices) ∧
    (n.leaves.map Prod.fst).Pairwise
      (fun p q => ¬ p.indices <+: q.indices ∧ ¬ q.indices <+: p.indices) ∧
    n.positions.ncard = n.count ∧
    IsGreatest ((fun p : Position => p.indices.length + 1) '' n.positions) n.depth ∧
    n.variableNames =
      let names := n.leaves.map fun leaf => leaf.2.variableName
      (names.zipIdx.filter fun entry => entry.1 ∉ names.take entry.2).map Prod.fst := by
  refine ⟨fun p c => mem_leaves_iff, List.pairwise_map.2 n.pairwise_leaves_lt, ?_,
    n.ncard_positions, n.isGreatest_depth, firstOccurrences_eq_filter _⟩
  rw [List.pairwise_map]
  refine n.pairwise_leaves_lt.imp_of_mem ?_
  rintro ⟨p, c⟩ ⟨q, d⟩ hp hq before
  have different : p ≠ q := by
    rintro rfl
    exact List.lt_irrefl _ before
  exact ⟨fun above => different (eq_of_isPrefix_of_mem_leaves hp hq above),
    fun below => different (eq_of_isPrefix_of_mem_leaves hq hp below).symm⟩

end RuleActivation.Node
