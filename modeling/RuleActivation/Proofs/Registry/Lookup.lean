import RuleActivation.Proofs.Success
import RuleActivation.Registry

/-!
# Looking rules up

The indexes of a registry lead to the rules that carry the keys, and only to these.

## Main results

* `Registry.find_eq_ok_iff`, `Registry.findByName_eq_ok_iff`: the rule that is found
* `Registry.rules_of_ofRules`: the rules of a new registry
-/

namespace RuleActivation

theorem Index.Covers.bind_getElem?_eq_some_iff {α κ : Type} [DecidableEq κ] {index : Index κ}
    {items : List α} {keyOf : α → κ} (h : index.Covers (items.map keyOf)) {key : κ} {a : α} :
    (index.get? key).bind (items[·]?) = some a ↔ a ∈ items ∧ keyOf a = key := by
  rw [Option.bind_eq_some_iff]
  constructor
  · rintro ⟨i, position, there⟩
    have carried := (h key i).1 position
    rw [List.getElem?_map, there] at carried
    exact ⟨List.mem_of_getElem? there, Option.some.inj carried⟩
  · rintro ⟨mem, rfl⟩
    obtain ⟨i, there⟩ := List.mem_iff_getElem?.1 mem
    exact ⟨i, (h _ i).2 (by rw [List.getElem?_map, there, Option.map_some]), there⟩

theorem elim_error_eq_ok_iff {ε α : Type} {x : Option α} {e : ε} {a : α} :
    x.elim (.error e) .ok = Except.ok a ↔ x = some a := by
  cases x <;> simp

namespace Registry

variable {registry registry' : Registry} {r : Rule}

theorem find?_eq_some_iff {id : Int64} :
    registry.find? id = some r ↔ r ∈ registry.rules ∧ r.id = id :=
  registry.covers_ids.bind_getElem?_eq_some_iff

theorem findByName?_eq_some_iff {name : String} :
    registry.findByName? name = some r ↔ r ∈ registry.rules ∧ r.name = name :=
  registry.covers_names.bind_getElem?_eq_some_iff

/-- A number leads to the rule with this number. -/
theorem find_eq_ok_iff {id : Int64} :
    registry.find id = .ok r ↔ r ∈ registry.rules ∧ r.id = id := by
  rw [find, elim_error_eq_ok_iff, find?_eq_some_iff]

/-- A name leads to the rule with this name. -/
theorem findByName_eq_ok_iff {name : String} :
    registry.findByName name = .ok r ↔ r ∈ registry.rules ∧ r.name = name := by
  rw [findByName, elim_error_eq_ok_iff, findByName?_eq_some_iff]

/-! ## The rules of a new registry -/

theorem rules_of_add (h : registry.add r = .ok registry') :
    registry'.rules = registry.rules ++ [r] := by
  unfold add at h
  split at h
  · cases h
  · split at h
    · cases h
    · cases h
      rfl

theorem rules_of_foldlM_add {rules : List Rule} (h : rules.foldlM add registry = .ok registry') :
    registry'.rules = registry.rules ++ rules := by
  induction rules generalizing registry with
  | nil =>
    cases h
    exact (List.append_nil _).symm
  | cons r rules ih =>
    obtain ⟨next, added, later⟩ := bind_eq_ok_iff.1 h
    rw [ih later, rules_of_add added, List.append_assoc, List.singleton_append]

/-- A registry holds the rules from which it has been made. -/
theorem rules_of_ofRules {rules : List Rule} (h : ofRules rules = .ok registry) :
    registry.rules = rules := rules_of_foldlM_add h

end Registry

end RuleActivation
