import RuleActivation.Evaluation.Basic
import RuleActivation.Proofs.Evaluation.Outcome
import RuleActivation.Proofs.Rule.Leaves

/-!
# What a tree means

A condition is true in an environment if its value is absent and it demands to be false, or if its
value is compared with the literal and the comparison holds. A tree that asks for all of its
children is true if they all are, one that asks for any of them is true if one is. Evaluation
decides this, although it does not look at all of the leaves.

## Main definitions

* `Condition.TrueIn`, `Node.TrueIn`: what it means to be true in an environment

## Main results

* `Node.evaluate_iff_trueIn`: evaluation decides the meaning
* `Node.TrueIn.mono`: a tree stays true if its true leaves do
* `Node.trueIn_of_leaves`: a tree is true if all of its leaves are
* `Node.trueIn_iff_hasAlternative`: a tree with one false leaf
-/

namespace RuleActivation

variable {env env' : Environment}

/-! ## Conditions -/

/-- The truth of a condition in an environment. -/
def Condition.TrueIn (env : Environment) (c : Condition) : Prop :=
  ((env.lookup c.variableName).isAbsent = true ∧
      c.operator = .equals ∧ c.literal = .bool false) ∨
    ((env.lookup c.variableName).kind ∈ c.operator.comparableKinds c.literal ∧
      c.operator.holds (env.lookup c.variableName) c.literal = true)

/-- The truth of a condition is what its outcome says. -/
theorem Condition.satisfied_iff_trueIn {c : Condition} :
    (c.outcome env).satisfied = true ↔ c.TrueIn env := by
  rw [outcome, Operator.outcome, TrueIn, ← Operator.demandsFalse_iff]
  cases absent : (env.lookup c.variableName).isAbsent with
  | true =>
    have kind : (env.lookup c.variableName).kind = .absent := by
      cases h : env.lookup c.variableName <;> simp_all [Value.isAbsent, Value.kind]
    simp [kind, Operator.absent_notMem_comparableKinds, Outcome.satisfied]
  | false =>
    have compared : c.operator.compares (env.lookup c.variableName) c.literal = true ↔
        (env.lookup c.variableName).kind ∈ c.operator.comparableKinds c.literal :=
      List.contains_iff_mem
    rw [← compared]
    cases c.operator.compares (env.lookup c.variableName) c.literal <;>
      cases c.operator.holds (env.lookup c.variableName) c.literal <;> simp [Outcome.satisfied]

/-! ## Trees -/

/-- The truth of a tree in an environment. -/
inductive Node.TrueIn (env : Environment) : Node → Prop where
  | leaf {c : Condition} (h : c.TrueIn env) : TrueIn env (.leaf c)
  | and {cs : Children} (h : ∀ n ∈ cs.toList, TrueIn env n) : TrueIn env (.junction .and cs)
  | or {cs : Children} {n : Node} (mem : n ∈ cs.toList) (h : TrueIn env n) :
    TrueIn env (.junction .or cs)

namespace Node

variable {c : Condition} {cs rest : Children} {n : Node} {k : Connective}

theorem trueIn_leaf_iff : (leaf c).TrueIn env ↔ c.TrueIn env :=
  ⟨fun h => by cases h with | leaf h => exact h, .leaf⟩

theorem trueIn_and_iff : (junction .and cs).TrueIn env ↔ ∀ n ∈ cs.toList, n.TrueIn env :=
  ⟨fun h => by cases h with | and h => exact h, .and⟩

theorem trueIn_or_iff : (junction .or cs).TrueIn env ↔ ∃ n ∈ cs.toList, n.TrueIn env :=
  ⟨fun h => by cases h with | or mem h => exact ⟨_, mem, h⟩, fun ⟨_, mem, h⟩ => .or mem h⟩

theorem trueIn_one_iff : (junction k (.one n)).TrueIn env ↔ n.TrueIn env := by
  cases k with
  | and => simp [trueIn_and_iff, Children.toList]
  | or => simp [trueIn_or_iff, Children.toList]

theorem trueIn_and_more_iff : (junction .and (.more n rest)).TrueIn env ↔
    n.TrueIn env ∧ (junction .and rest).TrueIn env := by
  simp [trueIn_and_iff, Children.toList]

theorem trueIn_or_more_iff : (junction .or (.more n rest)).TrueIn env ↔
    n.TrueIn env ∨ (junction .or rest).TrueIn env := by
  simp [trueIn_or_iff, Children.toList]

mutual

theorem visitAt_fst_iff (n : Node) (p : Position) :
    (n.visitAt env p).1 = true ↔ n.TrueIn env := by
  match n with
  | .leaf c => rw [trueIn_leaf_iff, ← Condition.satisfied_iff_trueIn, visitAt]
  | .junction k cs => exact visitChildren_fst_iff cs p k 0

/-- The children from an index on are as true as a node of their own with the same connective. -/
theorem visitChildren_fst_iff (cs : Children) (p : Position) (k : Connective) (index : Nat) :
    (visitChildren env p k index cs).1 = true ↔ (junction k cs).TrueIn env := by
  match cs with
  | .one n => rw [trueIn_one_iff, visitChildren, visitAt_fst_iff n]
  | .more n rest =>
    have first := visitAt_fst_iff n (p.child index)
    have later := visitChildren_fst_iff rest p k (index + 1)
    rw [visitChildren_more]
    cases k with
    | and =>
      rw [trueIn_and_more_iff, ← first, ← later]
      cases truth : (n.visitAt env (p.child index)).1 <;> simp [truth, Connective.decisive]
    | or =>
      rw [trueIn_or_more_iff, ← first, ← later]
      cases truth : (n.visitAt env (p.child index)).1 <;> simp [truth, Connective.decisive]

end

/-- Evaluation decides the meaning of a tree. -/
theorem evaluate_iff_trueIn : n.evaluate env = true ↔ n.TrueIn env := visitAt_fst_iff n .root

instance (env : Environment) (n : Node) : Decidable (n.TrueIn env) :=
  decidable_of_iff _ evaluate_iff_trueIn

/-! ## True leaves -/

theorem TrueIn.mono_follow (h : n.TrueIn env) (leaves : ∀ path c, n.follow path = some (.leaf c) →
    c.TrueIn env → c.TrueIn env') : n.TrueIn env' := by
  induction h with
  | leaf h => exact .leaf (leaves [] _ rfl h)
  | and h ih =>
    apply TrueIn.and
    intro n mem
    obtain ⟨i, child⟩ := Children.exists_get?_of_mem mem
    exact ih n mem fun path c found => leaves (i :: path) c (by rw [follow_of_get? child, found])
  | or mem h ih =>
    obtain ⟨i, child⟩ := Children.exists_get?_of_mem mem
    exact .or mem
      (ih fun path c found => leaves (i :: path) c (by rw [follow_of_get? child, found]))

/-- A tree stays true if its true leaves do. -/
theorem TrueIn.mono (h : n.TrueIn env)
    (leaves : ∀ leaf ∈ n.leaves, leaf.2.TrueIn env → leaf.2.TrueIn env') : n.TrueIn env' :=
  h.mono_follow fun path c found => leaves (⟨path⟩, c) (mem_leaves_iff.2 found)

mutual

theorem trueIn_of_follow (n : Node)
    (leaves : ∀ path c, n.follow path = some (leaf c) → c.TrueIn env) : n.TrueIn env := by
  match n with
  | .leaf c => exact .leaf (leaves [] c rfl)
  | .junction k cs =>
    have children := trueIn_of_childFollow cs fun i path => leaves (i :: path)
    cases k with
    | and => exact .and children
    | or =>
      obtain ⟨n, mem⟩ := List.exists_mem_of_ne_nil _ cs.toList_ne_nil
      exact .or mem (children n mem)

theorem trueIn_of_childFollow (cs : Children) (leaves : ∀ i path c,
    (cs.get? i).bind (·.follow path) = some (leaf c) → c.TrueIn env) :
    ∀ n ∈ cs.toList, n.TrueIn env := by
  match cs with
  | .one n =>
    intro m mem
    rw [List.mem_singleton.1 mem]
    exact trueIn_of_follow n (leaves 0)
  | .more n rest =>
    have first := trueIn_of_follow n (leaves 0)
    have later := trueIn_of_childFollow rest fun i => leaves (i + 1)
    exact List.forall_mem_cons.2 ⟨first, later⟩

end

/-- A tree is true if all of its leaves are, since every node has a child. -/
theorem trueIn_of_leaves (leaves : ∀ leaf ∈ n.leaves, leaf.2.TrueIn env) : n.TrueIn env :=
  trueIn_of_follow n fun path c found => leaves (⟨path⟩, c) (mem_leaves_iff.2 found)

/-! ## One false leaf -/

/-- A position has an alternative if it lies below a node that asks for any of several children. -/
def HasAlternative (n : Node) (p : Position) : Prop :=
  ∃ (q : Position) (i : Nat) (path : List Nat) (cs : Children),
    p.indices = q.indices ++ i :: path ∧ n.get? q = some (junction .or cs) ∧ 2 ≤ cs.toList.length

theorem not_hasAlternative_nil (n : Node) : ¬ n.HasAlternative ⟨[]⟩ := by
  rintro ⟨q, i, path, cs, below, -⟩
  simp at below

theorem hasAlternative_cons_iff {i : Nat} {path : List Nat} (child : cs.get? i = some n) :
    (junction k cs).HasAlternative ⟨i :: path⟩ ↔
      (k = .or ∧ 2 ≤ cs.toList.length) ∨ n.HasAlternative ⟨path⟩ := by
  constructor
  · rintro ⟨⟨above⟩, j, below, ds, place, found, several⟩
    cases above with
    | nil =>
      cases found
      exact .inl ⟨rfl, several⟩
    | cons j' above =>
      obtain ⟨rfl, inner⟩ := List.cons.inj place
      rw [get?, follow_of_get? child] at found
      exact .inr ⟨⟨above⟩, j, below, ds, inner, found, several⟩
  · rintro (⟨rfl, several⟩ | ⟨⟨above⟩, j, below, ds, place, found, several⟩)
    · exact ⟨⟨[]⟩, i, path, cs, rfl, rfl, several⟩
    · refine ⟨⟨i :: above⟩, j, below, ds, congrArg (i :: ·) place, ?_, several⟩
      rwa [get?, follow_of_get? child]

section Siblings

variable {i : Nat} {m : Node} (child : cs.get? i = some m)
  (siblings : ∀ j s, cs.get? j = some s → j ≠ i → s.TrueIn env)

include child siblings

/-- If all other children are true, a node that asks for all of its children is true if this one
is. -/
theorem trueIn_and_iff_of_siblings : (junction .and cs).TrueIn env ↔ m.TrueIn env := by
  rw [trueIn_and_iff]
  constructor
  · intro all
    exact all m (Children.mem_of_get? child)
  · intro h s mem
    obtain ⟨j, sibling⟩ := Children.exists_get?_of_mem mem
    by_cases same : j = i
    · rw [same, child] at sibling
      cases sibling
      exact h
    · exact siblings j s sibling same

/-- If all other children are true, a node that asks for any of its children is true if there are
others or this one is. -/
theorem trueIn_or_iff_of_siblings :
    (junction .or cs).TrueIn env ↔ 2 ≤ cs.toList.length ∨ m.TrueIn env := by
  rw [trueIn_or_iff]
  constructor
  · rintro ⟨s, mem, h⟩
    obtain ⟨j, sibling⟩ := Children.exists_get?_of_mem mem
    by_cases same : j = i
    · rw [same, child] at sibling
      cases sibling
      exact .inr h
    · have := Children.lt_of_get? sibling
      have := Children.lt_of_get? child
      left
      omega
  · rintro (several | h)
    · obtain ⟨j, inside, other⟩ : ∃ j, j < cs.toList.length ∧ j ≠ i := by
        by_cases first : i = 0
        · exact ⟨1, by omega, by omega⟩
        · exact ⟨0, by omega, by omega⟩
      have sibling : cs.get? j = some cs.toList[j] := by
        rw [Children.get?_eq_getElem?, List.getElem?_eq_getElem inside]
      exact ⟨_, Children.mem_of_get? sibling, siblings j _ sibling other⟩
    · exact ⟨m, Children.mem_of_get? child, h⟩

end Siblings

theorem trueIn_iff_hasAlternative_of_follow {path : List Nat}
    (found : n.follow path = some (leaf c)) (fails : ¬ c.TrueIn env)
    (others : ∀ path' d, n.follow path' = some (leaf d) → path' ≠ path → d.TrueIn env) :
    n.TrueIn env ↔ n.HasAlternative ⟨path⟩ := by
  induction path generalizing n with
  | nil =>
    obtain rfl : n = leaf c := by simpa using found
    exact ⟨fun h => absurd (trueIn_leaf_iff.1 h) fails,
      fun h => absurd h (not_hasAlternative_nil _)⟩
  | cons i path ih =>
    match n with
    | .leaf d => simp at found
    | .junction k cs =>
      rw [follow_junction_cons, Option.bind_eq_some_iff] at found
      obtain ⟨m, child, found⟩ := found
      -- the leaves of the other children are other leaves, and so are those of this child but one
      have siblings : ∀ j s, cs.get? j = some s → j ≠ i → s.TrueIn env := by
        intro j s sibling other
        apply trueIn_of_follow
        intro path' d found'
        exact others (j :: path') d (by rw [follow_of_get? sibling, found']) (by simp [other])
      have inner : m.TrueIn env ↔ m.HasAlternative ⟨path⟩ := by
        apply ih found
        intro path' d found' other
        exact others (i :: path') d (by rw [follow_of_get? child, found']) (by simp [other])
      rw [hasAlternative_cons_iff child, ← inner]
      cases k with
      | and => simpa using trueIn_and_iff_of_siblings child siblings
      | or => simpa using trueIn_or_iff_of_siblings child siblings

/-- A tree with one false leaf is true if and only if this leaf has an alternative. -/
theorem trueIn_iff_hasAlternative {p : Position} (leaf : (p, c) ∈ n.leaves)
    (fails : ¬ c.TrueIn env) (others : ∀ leaf ∈ n.leaves, leaf.1 ≠ p → leaf.2.TrueIn env) :
    n.TrueIn env ↔ n.HasAlternative p := by
  apply trueIn_iff_hasAlternative_of_follow (mem_leaves_iff.1 leaf) fails
  intro path d found elsewhere
  have other : (⟨path⟩, d) ∈ n.leaves := mem_leaves_iff.2 found
  exact others _ other fun same => elsewhere (congrArg Position.indices same)

end Node

end RuleActivation
