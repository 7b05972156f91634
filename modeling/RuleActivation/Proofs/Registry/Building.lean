import RuleActivation.Proofs.Registry.Lookup

/-!
# Building a registry

Rules are added to a registry one after the other. A rule that comes after one with its number or
its name is refused, and with it all rules; only rules with distinct numbers and distinct names make
a registry.

## Main definitions

* `Rule.Clashes`: a rule that comes after others that have its number or its name

## Main results

* `Registry.exists_ofRules_iff`: the rules that make a registry
* `Registry.ofRules_eq_error_iff`: the rule that is refused
* `Registry.rulesOf_eq_error_iff`: the first rule that cannot be read
-/

namespace RuleActivation

/-- A rule comes after others that have its number, or else its name. The error tells which. -/
inductive Rule.Clashes (r : Rule) (before : List Rule) : RegistryError → Prop where
  | id (taken : r.id ∈ before.map Rule.id) : r.Clashes before (.duplicateId r.id)
  | name (fresh : r.id ∉ before.map Rule.id) (taken : r.name ∈ before.map Rule.name) :
      r.Clashes before (.duplicateName r.id r.name)

namespace Registry

variable {registry : Registry} {r : Rule} {rules : List Rule} {e : RegistryError}

/-! ## One rule -/

/-- Where keys are distinct, a rule has another key than those before it. -/
theorem not_mem_map_of_nodup {κ : Type} {key : Rule → κ} {before after : List Rule}
    (distinct : ((before ++ r :: after).map key).Nodup) : key r ∉ before.map key := by
  rw [List.map_append, List.map_cons] at distinct
  exact fun mem => (List.nodup_append.1 distinct).2.2 _ mem _ List.mem_cons_self rfl

theorem mem_ids_of_get? {i : Nat} (h : registry.ids.get? r.id = some i) :
    r.id ∈ registry.rules.map Rule.id :=
  List.mem_of_getElem? ((registry.covers_ids _ i).1 h)

theorem mem_names_of_get? {i : Nat} (h : registry.names.get? r.name = some i) :
    r.name ∈ registry.rules.map Rule.name :=
  List.mem_of_getElem? ((registry.covers_names _ i).1 h)

/-- A rule that is not added clashes with the rules before. -/
theorem clashes_of_add (h : registry.add r = .error e) : r.Clashes registry.rules e := by
  unfold add at h
  split at h
  · rename_i i taken
    cases h
    exact .id (mem_ids_of_get? taken)
  · rename_i fresh
    split at h
    · rename_i i taken
      cases h
      exact .name (registry.covers_ids.get?_eq_none.1 fresh) (mem_names_of_get? taken)
    · cases h

/-- Only one error tells of a clash. -/
theorem eq_of_clashes {before : List Rule} {e' : RegistryError} (h : r.Clashes before e)
    (h' : r.Clashes before e') : e = e' := by
  cases h with
  | id taken =>
    cases h' with
    | id => rfl
    | name fresh => exact absurd taken fresh
  | name fresh =>
    cases h' with
    | id taken => exact absurd taken fresh
    | name => rfl

/-- A rule that clashes with the rules before is not added. -/
theorem add_of_clashes (h : r.Clashes registry.rules e) : registry.add r = .error e := by
  cases added : registry.add r with
  | error e' => rw [eq_of_clashes h (clashes_of_add added)]
  | ok next =>
    have rules := rules_of_add added
    cases h with
    | id taken => exact absurd taken (not_mem_map_of_nodup (rules ▸ next.distinct_ids))
    | name _ taken => exact absurd taken (not_mem_map_of_nodup (rules ▸ next.distinct_names))

/-- A rule with a new number and a new name is added. -/
theorem exists_add_of_fresh (newId : r.id ∉ registry.rules.map Rule.id)
    (newName : r.name ∉ registry.rules.map Rule.name) :
    ∃ registry', registry.add r = .ok registry' := by
  cases added : registry.add r with
  | ok registry' => exact ⟨registry', rfl⟩
  | error e =>
    cases clashes_of_add added with
    | id taken => exact absurd taken newId
    | name _ taken => exact absurd taken newName

/-! ## All rules -/

theorem exists_foldlM_add (ids : ((registry.rules ++ rules).map Rule.id).Nodup)
    (names : ((registry.rules ++ rules).map Rule.name).Nodup) :
    ∃ registry', rules.foldlM add registry = .ok registry' := by
  induction rules generalizing registry with
  | nil => exact ⟨registry, rfl⟩
  | cons r rules ih =>
    obtain ⟨next, added⟩ :=
      exists_add_of_fresh (not_mem_map_of_nodup ids) (not_mem_map_of_nodup names)
    have same : next.rules ++ rules = registry.rules ++ r :: rules := by
      rw [rules_of_add added, List.append_assoc, List.singleton_append]
    obtain ⟨registry', made⟩ := @ih next (same ▸ ids) (same ▸ names)
    exact ⟨registry', bind_eq_ok_iff.2 ⟨next, added, made⟩⟩

/-- Rules make a registry if and only if their numbers are distinct and their names are distinct. -/
theorem exists_ofRules_iff :
    (∃ registry, ofRules rules = .ok registry) ↔
      (rules.map Rule.id).Nodup ∧ (rules.map Rule.name).Nodup := by
  constructor
  · rintro ⟨registry, made⟩
    rw [← rules_of_ofRules made]
    exact ⟨registry.distinct_ids, registry.distinct_names⟩
  · rintro ⟨ids, names⟩
    exact exists_foldlM_add ids names

theorem exists_clash_of_foldlM_add (h : rules.foldlM add registry = .error e) :
    ∃ before r after, rules = before ++ r :: after ∧
      ((registry.rules ++ before).map Rule.id).Nodup ∧
      ((registry.rules ++ before).map Rule.name).Nodup ∧
      r.Clashes (registry.rules ++ before) e := by
  induction rules generalizing registry with
  | nil => cases h
  | cons r rules ih =>
    rcases bind_eq_error_iff.1 h with refused | ⟨next, added, later⟩
    · refine ⟨[], r, rules, rfl, ?_⟩
      rw [List.append_nil]
      exact ⟨registry.distinct_ids, registry.distinct_names, clashes_of_add refused⟩
    · obtain ⟨before, s, after, rfl, clash⟩ := ih later
      rw [rules_of_add added, List.append_assoc, List.singleton_append] at clash
      exact ⟨r :: before, s, after, rfl, clash⟩

/-- Rules make no registry if and only if one of them clashes with those before, which do not clash
with each other. -/
theorem ofRules_eq_error_iff :
    ofRules rules = .error e ↔ ∃ before r after, rules = before ++ r :: after ∧
      (before.map Rule.id).Nodup ∧ (before.map Rule.name).Nodup ∧ r.Clashes before e := by
  constructor
  · exact fun h => exists_clash_of_foldlM_add h
  · rintro ⟨before, r, after, rfl, ids, names, clash⟩
    obtain ⟨registry, made⟩ := exists_ofRules_iff.2 ⟨ids, names⟩
    rw [← rules_of_ofRules made] at clash
    rw [ofRules, List.foldlM_append]
    have refused := add_of_clashes clash
    exact bind_eq_error_iff.2 (.inr ⟨registry, made, bind_eq_error_iff.2 (.inl refused)⟩)

/-! ## Documents -/

section

variable {document : Json} {items : List Json}

theorem rulesOf_of_get? (found : document.get? "rules" = some (.array items)) :
    rulesOf document = items.mapM fun item => (Rule.ofJson item).mapError .definition := by
  rw [rulesOf, found]
  rfl

/-- If the rules of a document cannot be read, the first one that cannot be read tells why. -/
theorem rulesOf_eq_error_iff (found : document.get? "rules" = some (.array items)) :
    rulesOf document = .error e ↔ ∃ before item after bad, items = before ++ item :: after ∧
      (∀ v ∈ before, ∃ r, Rule.ofJson v = .ok r) ∧ Rule.ofJson item = .error bad ∧
      e = .definition bad := by
  rw [rulesOf_of_get? found, mapM_eq_error_iff]
  simp only [mapError_eq_ok_iff, mapError_eq_error_iff]
  constructor
  · rintro ⟨before, item, after, split, good, bad, wrong, rfl⟩
    exact ⟨before, item, after, bad, split, good, wrong, rfl⟩
  · rintro ⟨before, item, after, bad, split, good, wrong, rfl⟩
    exact ⟨before, item, after, split, good, bad, wrong, rfl⟩

end

end Registry

end RuleActivation
