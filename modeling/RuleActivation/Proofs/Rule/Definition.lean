import RuleActivation.Proofs.Json.Width
import RuleActivation.Proofs.Registry.Lookup
import RuleActivation.Proofs.Rule.Reading

/-!
# Definitions of trees

A leaf of a tree that is read from a definition has a definition of its own, which is reached from
that of the tree by going to the children. What passes on to the children therefore holds of the
definition of each leaf.

## Main definitions

* `Node.PassesOn`: what passes on to the definitions of children

## Main results

* `Node.exists_definition_of_mem_leavesAt`: the definition of a leaf
* `Registry.exists_items_of_ofJson`: the definitions of rules
* `Registry.name_ne_of_ofJson`: the rules of a document have names
* `Registry.index_lt_of_mem_leaves`: positions in a document
-/

namespace RuleActivation

namespace Node

/-! ## Leaves -/

theorem exists_child_of_mem_childLeaves {p : Position} {leaf : Position × Condition} {index : Nat}
    (cs : Children) (h : leaf ∈ childLeaves p index cs) :
    ∃ i, ∃ child : Node, cs.toList[i]? = some child ∧
      leaf ∈ child.leavesAt (p.child (index + i)) := by
  match cs with
  | .one n => exact ⟨0, n, rfl, h⟩
  | .more n rest =>
    rcases List.mem_append.1 h with first | later
    · exact ⟨0, n, rfl, first⟩
    · obtain ⟨i, child, found, mem⟩ := exists_child_of_mem_childLeaves rest later
      refine ⟨i + 1, child, found, ?_⟩
      rwa [show index + (i + 1) = index + 1 + i by omega]

/-! ## Definitions -/

/-- What passes on from a definition at a position to the definitions of its children. -/
def PassesOn (P : Position → Json → Prop) : Prop :=
  ∀ p members items, P p (.object members) → members.lookup "children" = some (.array items) →
    ∀ i v, items[i]? = some v → P (p.child i) v

section

variable {P : Position → Json → Prop} {rule : Int64}

/-- A leaf of a tree has a definition, of which holds what passes on from that of the tree. -/
theorem exists_definition_of_mem_leavesAt (passes : PassesOn P) (v : Json) {p : Position} {n : Node}
    (h : ofJson rule p v = .ok n) (start : P p v) {leaf : Position × Condition}
    (mem : leaf ∈ n.leavesAt p) :
    ∃ members, P leaf.1 (.object members) ∧ Condition.ofJson (.object members) = .ok leaf.2 := by
  induction v using Json.induction_on_children generalizing p n with
  | step v ih =>
    rcases ofJson_eq_ok_iff.1 h with
      ⟨type, c, defined, rfl⟩ | ⟨k, items, cs, type, listed, read, rfl⟩
    · obtain ⟨members, rfl⟩ :=
        NodeType.exists_members_of_ofJson (NodeType.ofJson_eq_condition_iff.2 type)
      obtain rfl := List.mem_singleton.1 mem
      exact ⟨members, start, defined⟩
    · obtain ⟨members, rfl⟩ :=
        NodeType.exists_members_of_ofJson (NodeType.ofJson_eq_junction_iff.2 type)
      obtain ⟨i, child, found, mem⟩ := exists_child_of_mem_childLeaves cs mem
      obtain ⟨item, there, read⟩ := exists_item_of_getElem? read found
      rw [Nat.zero_add] at read mem
      exact ih i item (Json.child?_eq_some_iff.2 ⟨items, listed, there⟩) read
        (passes p members items start listed i item there) mem

end

/-- Indices of positions are smaller than the definition is wide. -/
theorem indices_lt_of_ofJson {rule : Int64} {v : Json} {n : Node} {width : Nat}
    (h : ofJson rule .root v = .ok n) (narrow : v.width ≤ width) :
    ∀ leaf ∈ n.leaves, ∀ i ∈ leaf.1.indices, i < width := by
  let P (p : Position) (v : Json) : Prop := v.width ≤ width ∧ ∀ i ∈ p.indices, i < width
  have passes : PassesOn P := by
    rintro p members items ⟨narrow, indices⟩ found i v item
    have array := Json.width_object_le.1 narrow _ (Dictionary.mem_of_lookup_eq_some found)
    obtain ⟨short, items⟩ := Json.width_array_le.1 array
    obtain ⟨inside, -⟩ := List.getElem?_eq_some_iff.1 item
    refine ⟨items v (List.mem_of_getElem? item), fun j mem => ?_⟩
    rcases List.mem_append.1 mem with above | last
    · exact indices j above
    · obtain rfl := List.mem_singleton.1 last
      omega
  intro leaf mem
  obtain ⟨-, ⟨-, indices⟩, -⟩ := exists_definition_of_mem_leavesAt passes v h ⟨narrow, nofun⟩ mem
  exact indices

end Node

/-- The literal of a condition is a member of its definition. -/
theorem Condition.exists_literal_of_ofJson {v : Json} {c : Condition} (h : ofJson v = .ok c) :
    ∃ literal, v.get? "value" = some literal ∧ c.literal = Value.ofJson literal := by
  obtain ⟨variableName, -, h⟩ := bind_eq_ok_iff.1 h
  obtain ⟨spelling, -, h⟩ := bind_eq_ok_iff.1 h
  obtain ⟨operator, -, h⟩ := bind_eq_ok_iff.1 h
  obtain ⟨literal, there, made⟩ := bind_eq_ok_iff.1 h
  exact ⟨literal, DefinitionFault.require_eq_ok_iff.1 there,
    (parts_of_make (mapError_eq_ok_iff.1 made)).2.2⟩

/-! ## Definitions of rules -/

/-- The definitions of the rules are the items of a list in the document, in its order. -/
theorem Registry.exists_items_of_ofJson {document : Json} {registry : Registry}
    (h : ofJson document = .ok registry) :
    ∃ items, document.get? "rules" = some (.array items) ∧
      List.Forall₂ (fun item r => Rule.ofJson item = .ok r) items registry.rules := by
  obtain ⟨rules, read, made⟩ := bind_eq_ok_iff.1 h
  rw [rules_of_ofRules made]
  unfold rulesOf at read
  split at read
  · cases read
  · rename_i items found
    exact ⟨items, Json.bind_asItems?_eq_some_iff.1 found,
      (forall₂_of_mapM_eq_ok read).imp fun _ _ => mapError_eq_ok_iff.1⟩

/-- The definition of a rule is an item of a list in the document. -/
theorem Registry.exists_definition_of_mem_rules {document : Json} {registry : Registry}
    (h : ofJson document = .ok registry) {r : Rule} (mem : r ∈ registry.rules) :
    ∃ items, document.get? "rules" = some (.array items) ∧
      ∃ item ∈ items, Rule.ofJson item = .ok r := by
  obtain ⟨items, found, definitions⟩ := exists_items_of_ofJson h
  exact ⟨items, found, exists_mem_of_forall₂ definitions mem⟩

/-- The rules of a registry that has been loaded have names. -/
theorem Registry.name_ne_of_ofJson {document : Json} {registry : Registry}
    (h : ofJson document = .ok registry) : ∀ r ∈ registry.rules, r.name ≠ "" := by
  intro r mem
  obtain ⟨items, -, item, -, read⟩ := exists_definition_of_mem_rules h mem
  exact (Rule.name_of_ofJson read).2

theorem Json.width_le_of_get? {v w : Json} {key : String} {width : Nat} (narrow : v.width ≤ width)
    (h : v.get? key = some w) : w.width ≤ width := by
  cases v with
  | object members => exact width_object_le.1 narrow _ (Dictionary.mem_of_lookup_eq_some h)
  | _ => cases h

/-- Indices of positions are smaller than the document is wide. -/
theorem Registry.index_lt_of_mem_leaves {document : Json} {registry : Registry} {width : Nat}
    (h : ofJson document = .ok registry) (narrow : document.width ≤ width) :
    ∀ r ∈ registry.rules, ∀ leaf ∈ r.tree.leaves, ∀ i ∈ leaf.1.indices, i < width := by
  intro r mem
  obtain ⟨items, found, item, listed, read⟩ := exists_definition_of_mem_rules h mem
  obtain ⟨definition, there, tree⟩ := Rule.exists_tree_of_ofJson read
  have narrowItem := (Json.width_array_le.1 (Json.width_le_of_get? narrow found)).2 item listed
  exact Node.indices_lt_of_ofJson tree (Json.width_le_of_get? narrowItem there)

end RuleActivation
