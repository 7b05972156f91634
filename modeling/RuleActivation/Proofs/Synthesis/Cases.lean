import RuleActivation.Proofs.Operator
import RuleActivation.Proofs.Success
import RuleActivation.Synthesis.Basic

/-!
# Where the cases of a rule come from

The cases of a rule are its baseline and the baseline with one variable changed or removed. Every
value in one of them is a boundary value of a condition of the rule on the variable.

## Main results

* `Node.get?_candidates`: the candidates of a tree, variable by variable
* `Rule.mem_cases_iff`: the cases of a rule
* `Rule.mem_cases_positiveAll_iff`, `Rule.mem_cases_negativeLeaf_iff`,
  `Rule.mem_cases_nullLeaf_iff`: the cases with a given label
* `Rule.length_cases_add_length_unbuilt`: the number of cases
* `Rule.exists_leaf_of_mem_cases`: where the values of a case come from
-/

namespace RuleActivation

/-! ## Candidates -/

theorem mem_filterMap_satisfying_iff {conditions : List Condition} {v : Value} :
    (v ∈ conditions.filterMap fun c => c.satisfying.toOption) ↔
      ∃ c ∈ conditions, c.satisfying = .ok v := by
  simp only [List.mem_filterMap, toOption_eq_some_iff]

theorem exists_of_candidate?_eq_some {conditions : List Condition} {v : Value}
    (h : candidate? conditions = some v) : ∃ c ∈ conditions, c.satisfying = .ok v := by
  apply mem_filterMap_satisfying_iff.1
  rcases Option.or_eq_some_iff.1 h with found | ⟨-, first⟩
  · exact List.mem_of_find?_eq_some found
  · exact List.mem_of_head? first

namespace Node

theorem mem_firstOccurrences {names : List String} {name : String} :
    name ∈ firstOccurrences names ↔ name ∈ names := by
  -- the names that have been seen grow along the fold
  have from_seen (seen : List String) :
      name ∈ names.foldl (fun seen name => if seen.contains name then seen else seen ++ [name])
        seen ↔ name ∈ seen ∨ name ∈ names := by
    induction names generalizing seen with
    | nil => simp
    | cons first names ih =>
      rw [List.foldl_cons, ih]
      split
      · rename_i known
        have : first ∈ seen := List.contains_iff_mem.1 known
        grind
      · grind
  simpa [firstOccurrences] using from_seen []

theorem nodup_firstOccurrences (names : List String) : (firstOccurrences names).Nodup := by
  have from_seen (seen : List String) (h : seen.Nodup) :
      (names.foldl (fun seen name => if seen.contains name then seen else seen ++ [name])
        seen).Nodup := by
    induction names generalizing seen with
    | nil => exact h
    | cons first names ih =>
      rw [List.foldl_cons]
      apply ih
      split
      · exact h
      · rename_i new
        have unseen : first ∉ seen := fun mem => new (List.contains_iff_mem.2 mem)
        exact List.nodup_append_comm.1 (List.nodup_cons.2 ⟨unseen, h⟩)
  exact from_seen [] .nil

theorem mem_variableNames {n : Node} {name : String} :
    name ∈ n.variableNames ↔ ∃ leaf ∈ n.leaves, leaf.2.variableName = name := by
  rw [variableNames, mem_firstOccurrences, List.mem_map]

theorem mem_conditionsOn {n : Node} {name : String} {c : Condition} :
    c ∈ n.conditionsOn name ↔ (∃ p, (p, c) ∈ n.leaves) ∧ c.variableName = name := by
  simp [conditionsOn]

theorem get?_foldl_candidates (n : Node) (names : List String) (env : Environment)
    (name : String) :
    (names.foldl (fun env name =>
        (candidate? (n.conditionsOn name)).elim env (env.insert name ·)) env).get? name =
      if name ∈ names then (candidate? (n.conditionsOn name)).or (env.get? name)
      else env.get? name := by
  induction names generalizing env with
  | nil => rfl
  | cons first names ih =>
    have inserted : ((candidate? (n.conditionsOn first)).elim env (env.insert first ·)).get? name =
        if name = first then (candidate? (n.conditionsOn name)).or (env.get? name)
        else env.get? name := by
      cases h : candidate? (n.conditionsOn first) with
      | none =>
        by_cases same : name = first
        · simp [same, h]
        · simp [same]
      | some v =>
        by_cases same : name = first
        · simp [same, h]
        · simp [same]
    rw [List.foldl_cons, ih, inserted]
    grind

/-- The candidates of a tree, variable by variable. -/
theorem get?_candidates (n : Node) (name : String) :
    n.candidates.get? name = candidate? (n.conditionsOn name) := by
  rw [candidates, get?_foldl_candidates, Dictionary.get?_empty, Option.or_none]
  split
  · rfl
  · rename_i unknown
    have none : n.conditionsOn name = [] := List.eq_nil_iff_forall_not_mem.2 fun c hc => by
      obtain ⟨⟨p, leaf⟩, same⟩ := mem_conditionsOn.1 hc
      exact unknown (mem_variableNames.2 ⟨_, leaf, same⟩)
    rw [none]
    rfl

end Node

/-! ## Cases -/

namespace Rule

variable {r : Rule}

theorem baseline_eq_ok_iff {env : Environment} :
    r.baseline = .ok env ↔ r.tree.candidates = env ∧ r.evaluate env = true := by
  rw [baseline]
  constructor
  · intro h
    split at h
    · rename_i satisfied
      cases h
      exact ⟨rfl, satisfied⟩
    · cases h
  · rintro ⟨rfl, satisfied⟩
    exact if_pos satisfied

theorem negativeCase_eq_ok_iff {env : Environment} {leaf : Position × Condition}
    {c : BoundaryCase} : r.negativeCase env leaf = .ok c ↔ ∃ v, leaf.2.negative = .ok v ∧
      c = r.caseOf (.negativeLeaf leaf.1) (env.insert leaf.2.variableName v) := by
  rw [negativeCase]
  cases leaf.2.negative with
  | error fault => simp
  | ok v => simp [eq_comm]

/-- The cases of a rule are its baseline and the baseline with one variable changed or removed. -/
theorem mem_cases_iff {c : BoundaryCase} :
    c ∈ r.synthesize.cases ↔ ∃ env, r.baseline = .ok env ∧
      (c = r.caseOf .positiveAll env ∨
        (∃ leaf ∈ r.tree.leaves, r.negativeCase env leaf = .ok c) ∨
        ∃ leaf ∈ r.tree.leaves, c = r.nullCase env leaf) := by
  rw [synthesize]
  cases r.baseline with
  | error exclusion => simp
  | ok env =>
    simp [List.mem_append, List.mem_filterMap, toOption_eq_some_iff, eq_comm (b := c)]

section Labels

variable {env : Environment} {c : BoundaryCase} {p : Position}

theorem mem_cases_positiveAll_iff (baseline : r.baseline = .ok env) :
    c ∈ r.synthesize.cases ∧ c.label = .positiveAll ↔ c = r.caseOf .positiveAll env := by
  rw [mem_cases_iff, baseline]
  constructor
  · rintro ⟨⟨_, ⟨⟩, rfl | ⟨leaf, -, negative⟩ | ⟨leaf, -, rfl⟩⟩, label⟩
    · rfl
    · obtain ⟨v, -, rfl⟩ := negativeCase_eq_ok_iff.1 negative
      cases label
    · cases label
  · rintro rfl
    exact ⟨⟨env, rfl, .inl rfl⟩, rfl⟩

theorem mem_cases_negativeLeaf_iff (baseline : r.baseline = .ok env) :
    c ∈ r.synthesize.cases ∧ c.label = .negativeLeaf p ↔
      ∃ d v, (p, d) ∈ r.tree.leaves ∧ d.negative = .ok v ∧
        c = r.caseOf (.negativeLeaf p) (env.insert d.variableName v) := by
  rw [mem_cases_iff, baseline]
  constructor
  · rintro ⟨⟨_, ⟨⟩, rfl | ⟨⟨q, d⟩, leaf, built⟩ | ⟨leaf, -, rfl⟩⟩, label⟩
    · cases label
    · obtain ⟨v, negative, rfl⟩ := negativeCase_eq_ok_iff.1 built
      cases label
      exact ⟨d, v, leaf, negative, rfl⟩
    · cases label
  · rintro ⟨d, v, leaf, negative, rfl⟩
    refine ⟨⟨env, rfl, .inr (.inl ⟨(p, d), leaf, ?_⟩)⟩, rfl⟩
    exact negativeCase_eq_ok_iff.2 ⟨v, negative, rfl⟩

theorem mem_cases_nullLeaf_iff (baseline : r.baseline = .ok env) :
    c ∈ r.synthesize.cases ∧ c.label = .nullLeaf p ↔
      ∃ d, (p, d) ∈ r.tree.leaves ∧ c = r.caseOf (.nullLeaf p) (env.erase d.variableName) := by
  rw [mem_cases_iff, baseline]
  constructor
  · rintro ⟨⟨_, ⟨⟩, rfl | ⟨leaf, -, negative⟩ | ⟨⟨q, d⟩, leaf, rfl⟩⟩, label⟩
    · cases label
    · obtain ⟨v, -, rfl⟩ := negativeCase_eq_ok_iff.1 negative
      cases label
    · cases label
      exact ⟨d, leaf, rfl⟩
  · rintro ⟨d, leaf, rfl⟩
    exact ⟨⟨env, rfl, .inr (.inr ⟨(p, d), leaf, rfl⟩)⟩, rfl⟩

end Labels

theorem excluded_eq_none_iff : r.synthesize.excluded = none ↔ ∃ env, r.baseline = .ok env := by
  rw [synthesize]
  cases r.baseline <;> simp

theorem rule_synthesize (r : Rule) : r.synthesize.rule = r.id := by
  rw [synthesize]
  cases r.baseline <;> rfl

/-- An excluded rule has no cases and none that cannot be built. -/
theorem eq_nil_of_excluded (h : r.synthesize.excluded ≠ none) :
    r.synthesize.cases = [] ∧ r.synthesize.unbuilt = [] := by
  rw [synthesize] at h ⊢
  cases baseline : r.baseline with
  | error exclusion => exact ⟨rfl, rfl⟩
  | ok env => exact absurd (by rw [baseline]) h

section

variable {ε α : Type} (xs : List (Except ε α))

@[simp] theorem filterMap_toOption_cons_ok (a : α) :
    (.ok a :: xs).filterMap Except.toOption = a :: xs.filterMap Except.toOption := rfl

@[simp] theorem filterMap_toOption_cons_error (e : ε) :
    (.error e :: xs).filterMap Except.toOption = xs.filterMap Except.toOption := rfl

@[simp] theorem filterMap_error?_cons_ok (a : α) :
    (.ok a :: xs).filterMap error? = xs.filterMap error? := rfl

@[simp] theorem filterMap_error?_cons_error (e : ε) :
    (.error e :: xs).filterMap error? = e :: xs.filterMap error? := rfl

theorem length_filterMap_toOption_add :
    (xs.filterMap Except.toOption).length + (xs.filterMap error?).length = xs.length := by
  induction xs with
  | nil => rfl
  | cons x xs ih =>
    cases x with
    | ok a =>
      simp only [filterMap_toOption_cons_ok, filterMap_error?_cons_ok, List.length_cons]
      omega
    | error e =>
      simp only [filterMap_toOption_cons_error, filterMap_error?_cons_error, List.length_cons]
      omega

end

/-- A rule that is not excluded has a baseline and two cases for each leaf, built or not. -/
theorem length_cases_add_length_unbuilt (h : r.synthesize.excluded = none) :
    r.synthesize.cases.length + r.synthesize.unbuilt.length = 2 * r.tree.leaves.length + 1 := by
  obtain ⟨env, baseline⟩ := excluded_eq_none_iff.1 h
  have negatives := length_filterMap_toOption_add (r.tree.leaves.map (r.negativeCase env))
  rw [List.length_map] at negatives
  simp only [synthesize, baseline, List.length_cons, List.length_append, List.length_map]
  omega

theorem label_of_mem_cases {c : BoundaryCase} (h : c ∈ r.synthesize.cases) :
    c.label = .positiveAll ∨ ∃ leaf ∈ r.tree.leaves,
      c.label = .negativeLeaf leaf.1 ∨ c.label = .nullLeaf leaf.1 := by
  obtain ⟨env, -, rfl | ⟨leaf, mem, negative⟩ | ⟨leaf, mem, rfl⟩⟩ := mem_cases_iff.1 h
  · exact .inl rfl
  · obtain ⟨v, -, rfl⟩ := negativeCase_eq_ok_iff.1 negative
    exact .inr ⟨leaf, mem, .inl rfl⟩
  · exact .inr ⟨leaf, mem, .inr rfl⟩

theorem label_of_mem_unbuilt {u : UnbuiltCase} (h : u ∈ r.synthesize.unbuilt) :
    r.synthesize.excluded = none ∧ ∃ leaf ∈ r.tree.leaves, u.label = .negativeLeaf leaf.1 := by
  rw [excluded_eq_none_iff]
  rw [synthesize] at h
  cases baseline : r.baseline with
  | error exclusion => simp [baseline] at h
  | ok env =>
    obtain ⟨x, hx, failed⟩ := List.mem_filterMap.1 (by simpa only [baseline] using h)
    obtain ⟨leaf, mem, rfl⟩ := List.mem_map.1 hx
    refine ⟨⟨env, rfl⟩, leaf, mem, ?_⟩
    rw [negativeCase] at failed
    split at failed
    · cases failed
    · cases failed
      rfl

/-- A case is made of its label and its environment. -/
theorem eq_caseOf_of_mem_cases {c : BoundaryCase} (h : c ∈ r.synthesize.cases) :
    c = r.caseOf c.label c.environment := by
  obtain ⟨env, -, rfl | ⟨leaf, -, negative⟩ | ⟨leaf, -, rfl⟩⟩ := mem_cases_iff.1 h
  · rfl
  · obtain ⟨v, -, rfl⟩ := negativeCase_eq_ok_iff.1 negative
    rfl
  · rfl

theorem rule_eq_of_mem_cases {c : BoundaryCase} (h : c ∈ r.synthesize.cases) : c.rule = r.id :=
  congrArg BoundaryCase.rule (eq_caseOf_of_mem_cases h)

theorem expected_eq_of_mem_cases {c : BoundaryCase} (h : c ∈ r.synthesize.cases) :
    c.expected = r.evaluate c.environment :=
  congrArg BoundaryCase.expected (eq_caseOf_of_mem_cases h)

/-- Every value in a case is a boundary value of a condition on its variable. -/
theorem exists_leaf_of_mem_cases {c : BoundaryCase} (h : c ∈ r.synthesize.cases) {name : String}
    {v : Value} (given : c.environment.get? name = some v) :
    ∃ leaf ∈ r.tree.leaves, leaf.2.variableName = name ∧
      (leaf.2.satisfying = .ok v ∨ leaf.2.negative = .ok v) := by
  obtain ⟨env, satisfied, origin⟩ := mem_cases_iff.1 h
  obtain ⟨rfl, -⟩ := baseline_eq_ok_iff.1 satisfied
  have inBaseline (given : r.tree.candidates.get? name = some v) :
      ∃ leaf ∈ r.tree.leaves, leaf.2.variableName = name ∧
        (leaf.2.satisfying = .ok v ∨ leaf.2.negative = .ok v) := by
    rw [Node.get?_candidates] at given
    obtain ⟨d, hd, satisfying⟩ := exists_of_candidate?_eq_some given
    obtain ⟨⟨p, leaf⟩, named⟩ := Node.mem_conditionsOn.1 hd
    exact ⟨(p, d), leaf, named, .inl satisfying⟩
  rcases origin with rfl | ⟨leaf, mem, negative⟩ | ⟨leaf, mem, rfl⟩
  · exact inBaseline given
  · obtain ⟨w, hw, rfl⟩ := negativeCase_eq_ok_iff.1 negative
    simp only [caseOf, Dictionary.get?_insert] at given
    split at given
    · rename_i same
      exact ⟨leaf, mem, same.symm, .inr (Option.some.inj given ▸ hw)⟩
    · exact inBaseline given
  · simp only [nullCase, caseOf, Dictionary.get?_erase] at given
    split at given
    · cases given
    · exact inBaseline given

end Rule

end RuleActivation
