import RuleActivation.Proofs.Evaluation.Meaning

/-!
# Which leaves evaluation reaches

Evaluation reaches a position unless an earlier child of one of the nodes above it decides this
node. The leaves that it visits are the leaves at the positions that it reaches, in the order of
the tree.

## Main definitions

* `Node.Reaches`: the positions that are reached

## Main results

* `Node.visit_snd_eq`: the leaves that are visited
* `Node.mismatches_eq`: the mismatches that are found
-/

namespace RuleActivation.Node

variable {env : Environment} {c : Condition} {cs rest : Children} {n : Node} {k : Connective}
  {i : Nat} {path : List Nat}

/-! ## Positions that are reached -/

/-- A position is reached if at every node above it all earlier children leave the node undecided:
they are true if it asks for all of its children, and false if it asks for any of them. -/
def Reaches (env : Environment) (n : Node) (p : Position) : Prop :=
  ∀ (q : Position) (i : Nat) (path : List Nat), p.indices = q.indices ++ i :: path →
    ∀ k cs, n.get? q = some (junction k cs) →
      ∀ sibling ∈ cs.toList.take i, (sibling.TrueIn env ↔ k = .and)

theorem reaches_nil (n : Node) : n.Reaches env ⟨[]⟩ := by
  intro q i path place
  simp at place

theorem reaches_leaf (c : Condition) (p : Position) : (leaf c).Reaches env p := by
  rintro ⟨above⟩ i path - k cs found
  cases above with
  | nil => cases found
  | cons j above => cases found

theorem reaches_cons_iff : (junction k cs).Reaches env ⟨i :: path⟩ ↔
    (∀ sibling ∈ cs.toList.take i, (sibling.TrueIn env ↔ k = .and)) ∧
      ∀ m, cs.get? i = some m → m.Reaches env ⟨path⟩ := by
  constructor
  · intro h
    refine ⟨h ⟨[]⟩ i path rfl k cs rfl, ?_⟩
    intro m child q j below place l ds found
    exact h ⟨i :: q.indices⟩ j below (congrArg (i :: ·) place) l ds
      (by rwa [get?, follow_of_get? child])
  · rintro ⟨undecided, inner⟩ ⟨above⟩ j below place l ds found
    cases above with
    | nil =>
      obtain ⟨rfl, rfl⟩ := List.cons.inj place
      cases found
      exact undecided
    | cons i' above =>
      obtain ⟨rfl, place'⟩ := List.cons.inj place
      rw [get?, follow_junction_cons, Option.bind_eq_some_iff] at found
      obtain ⟨m, child, found⟩ := found
      exact inner m child ⟨above⟩ j below place' l ds found

theorem reaches_one_iff :
    (junction k (.one n)).Reaches env ⟨0 :: path⟩ ↔ n.Reaches env ⟨path⟩ := by
  simp [reaches_cons_iff, Children.get?]

theorem reaches_more_zero_iff :
    (junction k (.more n rest)).Reaches env ⟨0 :: path⟩ ↔ n.Reaches env ⟨path⟩ := by
  simp [reaches_cons_iff, Children.get?]

theorem reaches_more_succ_iff :
    (junction k (.more n rest)).Reaches env ⟨(i + 1) :: path⟩ ↔
      (n.TrueIn env ↔ k = .and) ∧ (junction k rest).Reaches env ⟨i :: path⟩ := by
  simp [reaches_cons_iff, Children.get?, Children.toList, and_assoc]

/-- Whether a position is reached can be decided child by child. -/
def decideReaches (env : Environment) :
    (n : Node) → (path : List Nat) → Decidable (n.Reaches env ⟨path⟩)
  | n, [] => .isTrue (reaches_nil n)
  | .leaf c, _ :: _ => .isTrue (reaches_leaf c _)
  | .junction k cs, i :: path =>
    match child : cs.get? i with
    | none => decidable_of_iff (∀ sibling ∈ cs.toList.take i, (sibling.TrueIn env ↔ k = .and))
        (by simp [reaches_cons_iff, child])
    | some m =>
      have := decideReaches env m path
      decidable_of_iff ((∀ sibling ∈ cs.toList.take i, (sibling.TrueIn env ↔ k = .and)) ∧
        m.Reaches env ⟨path⟩) (by simp [reaches_cons_iff, child])

instance (env : Environment) (n : Node) (p : Position) : Decidable (n.Reaches env p) :=
  decideReaches env n p.indices

/-! ## Leaves that are visited -/

/-- The visit of a leaf. -/
def visitOf (env : Environment) (leaf : Position × Condition) : Visit :=
  ⟨leaf.1, leaf.2, leaf.2.outcome env⟩

theorem visitAt_fst_eq_decisive_iff {p : Position} :
    (n.visitAt env p).1 = k.decisive ↔ ¬ (n.TrueIn env ↔ k = .and) := by
  rw [← visitAt_fst_iff n p]
  cases k <;> cases (n.visitAt env p).1 <;> simp [Connective.decisive]

mutual

/-- The visited leaves are those that are reached. The predicate is given for the positions in the
whole tree, which a child shares with its node. -/
theorem visitAt_snd_eq (n : Node) (p : Position) (P : Position → Prop) [DecidablePred P]
    (reached : ∀ path, P ⟨p.indices ++ path⟩ ↔ n.Reaches env ⟨path⟩) :
    (n.visitAt env p).2 = ((n.leavesAt p).filter fun leaf => P leaf.1).map (visitOf env) := by
  match n with
  | .leaf c =>
    have here : P p := by
      have := (reached []).2 (reaches_nil _)
      rwa [List.append_nil] at this
    simp [visitAt, leavesAt, here, visitOf]
  | .junction k cs =>
    apply visitChildren_snd_eq cs p k 0 P
    intro i path
    rw [Nat.zero_add]
    exact reached (i :: path)

theorem visitChildren_snd_eq (cs : Children) (p : Position) (k : Connective) (index : Nat)
    (P : Position → Prop) [DecidablePred P] (reached : ∀ i path,
      P ⟨p.indices ++ (index + i) :: path⟩ ↔ (junction k cs).Reaches env ⟨i :: path⟩) :
    (visitChildren env p k index cs).2 =
      ((childLeaves p index cs).filter fun leaf => P leaf.1).map (visitOf env) := by
  match cs with
  | .one n =>
    apply visitAt_snd_eq n (p.child index) P
    intro path
    rw [Position.indices_child_append, ← reaches_one_iff]
    exact reached 0 path
  | .more n rest =>
    have first := visitAt_snd_eq n (p.child index) P fun path => by
      rw [Position.indices_child_append, ← reaches_more_zero_iff]
      exact reached 0 path
    have place (i : Nat) : index + 1 + i = index + (i + 1) := by omega
    rw [visitChildren_more, childLeaves, List.filter_append, List.map_append, ← first]
    by_cases undecided : n.TrueIn env ↔ k = .and
    · have later := visitChildren_snd_eq rest p k (index + 1) P fun i path => by
        rw [place, reached (i + 1) path, reaches_more_succ_iff]
        exact and_iff_right undecided
      rw [if_neg (mt visitAt_fst_eq_decisive_iff.1 (not_not_intro undecided)), later]
    · have none : (childLeaves p (index + 1) rest).filter (fun leaf => P leaf.1) = [] := by
        rw [List.filter_eq_nil_iff]
        rintro ⟨q, c⟩ mem there
        obtain ⟨i, path, found, -⟩ := (mem_childLeaves_iff rest).1 mem
        have same : q = ⟨p.indices ++ (index + (i + 1)) :: path⟩ :=
          Position.ext (by rw [found, place])
        rw [same] at there
        exact undecided (reaches_more_succ_iff.1 ((reached _ _).1 (of_decide_eq_true there))).1
      rw [if_pos (visitAt_fst_eq_decisive_iff.2 undecided), none, List.map_nil, List.append_nil]

end

/-- The leaves that are visited are those at the positions that are reached. -/
theorem visit_snd_eq (n : Node) (env : Environment) :
    (n.visit env).2 = (n.leaves.filter fun leaf => n.Reaches env leaf.1).map (visitOf env) :=
  visitAt_snd_eq n .root (n.Reaches env) fun _ => Iff.rfl

theorem filterMap_ite_filter {α β : Type} (P Q : α → Prop) [DecidablePred P] [DecidablePred Q]
    (f : α → β) (xs : List α) :
    ((xs.filter (P ·)).filterMap fun x => if Q x then some (f x) else none) =
      (xs.filter fun x => P x ∧ Q x).map f := by
  induction xs with
  | nil => rfl
  | cons x xs ih =>
    by_cases hP : P x
    · by_cases hQ : Q x
      · simpa [hP, hQ] using ih
      · simpa [hP, hQ] using ih
    · simpa [hP] using ih

/-- The mismatches that are found are those of the leaves that are reached. -/
theorem mismatches_eq (n : Node) (rule : Option Int64) (env : Environment) :
    n.mismatches rule env =
      (n.leaves.filter fun leaf =>
        n.Reaches env leaf.1 ∧ leaf.2.outcome env = .mismatch).map fun (p, c) =>
          ⟨rule, c.variableName, p, c.operator, (env.lookup c.variableName).kind,
            c.operator.comparableKinds c.literal⟩ := by
  rw [mismatches, visit_snd_eq, List.filterMap_map]
  exact filterMap_ite_filter (fun leaf => n.Reaches env leaf.1)
    (fun leaf => leaf.2.outcome env = .mismatch) _ n.leaves

end RuleActivation.Node
