import RuleActivation.Proofs.Operator
import RuleActivation.Proofs.Rule.Definition
import RuleActivation.Proofs.Value.Depth
import RuleActivation.Schema

/-!
# What the schema promises

A document without problems has trees whose literals are scalars and lists of scalars. The loader
alone would admit lists inside of lists; with the schema before it, all literals are shallow, and
no literal that can be used holds an absence.

## Main definitions

* `Schema.IsFlat`: scalars and lists of scalars

## Main results

* `Schema.isLiteral_of_isNode`, `Schema.isNode_of_children`: the parts of a tree
* `Schema.isFlat_of_isLiteral`: the literals that conditions get
* `Schema.isFlat_of_problems`: the literals of a registry whose document has no problems
-/

namespace RuleActivation.Schema

/-! ## Trees -/

section

variable {members : List (String × Json)}

theorem isNode_object : isNode (.object members) = true ↔
    isCondition members = true ∨
      (["type", "children"].all (fun key => (members.lookup key).isSome) = true ∧
        areJunctionMembers members = true) := by
  rw [isNode, Bool.or_eq_true, Bool.and_eq_true]

theorem areNodes_iff {items : List Json} :
    areNodes items = true ↔ ∀ v ∈ items, isNode v = true := by
  induction items with
  | nil => simp [areNodes]
  | cons v vs ih => rw [areNodes, Bool.and_eq_true, ih, List.forall_mem_cons]

/-- A node with children has only its children and its type. -/
theorem isJunctionMember_of_mem (h : areJunctionMembers members = true) {key : String} {v : Json}
    (mem : (key, v) ∈ members) :
    (key = "children" ∧ ∃ items, v = .array items ∧ items ≠ [] ∧ areNodes items = true) ∨
      (key = "type" ∧ isJunctionType v = true) := by
  induction members with
  | nil => cases mem
  | cons m ms ih =>
    unfold areJunctionMembers at h
    rw [Bool.and_eq_true] at h
    obtain ⟨first, others⟩ := h
    rcases List.mem_cons.1 mem with rfl | later
    · split at first
      · rename_i same
        cases v with
        | array items =>
          obtain ⟨some, nodes⟩ := Bool.and_eq_true_iff.1 first
          exact .inl ⟨same, items, rfl, by simpa using some, nodes⟩
        | _ => cases first
      · obtain ⟨same, type⟩ := Bool.and_eq_true_iff.1 first
        exact .inr ⟨eq_of_beq same, type⟩
    · exact ih others later

theorem isConditionMember_of_mem (h : isCondition members = true) {m : String × Json}
    (mem : m ∈ members) : isConditionMember m = true :=
  List.all_eq_true.1 (Bool.and_eq_true_iff.1 h).2 m mem

/-- The children of a tree are trees. -/
theorem isNode_of_children (h : isNode (.object members) = true) {items : List Json}
    (there : members.lookup "children" = some (.array items)) : ∀ v ∈ items, isNode v = true := by
  have mem := Dictionary.mem_of_lookup_eq_some there
  rcases isNode_object.1 h with condition | ⟨-, junction⟩
  · cases isConditionMember_of_mem condition mem
  · rcases isJunctionMember_of_mem junction mem with ⟨-, children, same, -, nodes⟩ | ⟨other, -⟩
    · cases same
      exact areNodes_iff.1 nodes
    · exact absurd other (by decide)

/-- The value of a condition is a literal. -/
theorem isLiteral_of_isNode (h : isNode (.object members) = true) {v : Json}
    (there : members.lookup "value" = some v) : isLiteral v = true := by
  have mem := Dictionary.mem_of_lookup_eq_some there
  rcases isNode_object.1 h with condition | ⟨-, junction⟩
  · exact isConditionMember_of_mem condition mem
  · rcases isJunctionMember_of_mem junction mem with ⟨other, -⟩ | ⟨other, -⟩ <;>
      exact absurd other (by decide)

end

/-! ## Literals -/

/-- Values that are scalars or lists of scalars. -/
def IsFlat : Value → Prop
  | .list items => ∀ v ∈ items, v.isScalar = true
  | v => v.isScalar = true

theorem isFlat_of_isScalar {v : Value} (h : v.isScalar = true) : IsFlat v := by
  cases v with
  | list items => cases h
  | _ => exact h

theorem IsFlat.depth_le_one {v : Value} (h : IsFlat v) : v.depth ≤ 1 := by
  cases v with
  | list items => rw [Value.depth, Value.depthItems_of_isScalar h]
  | _ => exact Nat.zero_le 1

theorem IsFlat.isRecordable {v : Value} (h : IsFlat v) : v.isRecordable = true := by
  cases v with
  | list items =>
    exact Value.areRecordable_iff.2 fun v mem => Value.isRecordable_of_isScalar (h v mem)
  | _ => exact Value.isRecordable_of_isScalar h

/-- A scalar is the JSON form of a scalar, unless it is a number out of range. -/
theorem isScalar_or_isAbsent_of_isScalar {v : Json} (h : isScalar v = true) :
    (Value.ofJson v).isScalar = true ∨ (Value.ofJson v).isAbsent = true := by
  cases v with
  | number n =>
    rw [Value.ofJson]
    cases Decimal.ofNumber? n with
    | none => exact .inr rfl
    | some d => exact .inl rfl
  | bool b | string s => exact .inl rfl
  | _ => cases h

theorem mem_ofJsonItems {items : List Json} {v : Value} :
    v ∈ Value.ofJsonItems items ↔ ∃ w ∈ items, Value.ofJson w = v := by
  induction items with
  | nil => simp [Value.ofJsonItems]
  | cons w ws ih => simp [Value.ofJsonItems, ih, eq_comm]

theorem isScalar_or_exists_of_isLiteral {v : Json} (h : isLiteral v = true) :
    isScalar v = true ∨ ∃ items, v = .array items ∧ ∀ w ∈ items, isScalar w = true := by
  cases v with
  | array items => exact .inr ⟨items, rfl, List.all_eq_true.1 h⟩
  | _ => exact .inl h

/-- A literal of the schema that can be used is flat. -/
theorem isFlat_of_isLiteral {op : Operator} {v : Json} (h : isLiteral v = true)
    (usable : op.fault? (Value.ofJson v) = none) : IsFlat (Value.ofJson v) := by
  rcases isScalar_or_exists_of_isLiteral h with scalar | ⟨items, rfl, scalars⟩
  · have present := Operator.isAbsent_of_usable usable
    refine isFlat_of_isScalar ((isScalar_or_isAbsent_of_isScalar scalar).resolve_right ?_)
    rw [present]
    exact Bool.false_ne_true
  · rw [Value.ofJson] at usable ⊢
    intro v mem
    obtain ⟨w, there, rfl⟩ := mem_ofJsonItems.1 mem
    cases op with
    | equals =>
      refine (isScalar_or_isAbsent_of_isScalar (scalars w there)).resolve_right fun absent => ?_
      rw [Operator.fault?, if_pos (List.any_eq_true.2 ⟨_, mem, absent⟩)] at usable
      cases usable
    | inList => exact Operator.isScalar_of_mem_of_usable usable mem
    | contains | greaterThan | lessOrEqual => cases usable

/-! ## Documents -/

/-- The literals of a tree that the schema admits are flat. -/
theorem isFlat_of_mem_leaves {rule : Int64} {v : Json} {n : Node} (h : isNode v = true)
    (read : Node.ofJson rule .root v = .ok n) : ∀ leaf ∈ n.leaves, IsFlat leaf.2.literal := by
  have passes : Node.PassesOn fun _ v => isNode v = true := fun _ _ _ node found _ v item =>
    isNode_of_children node found v (List.mem_of_getElem? item)
  intro leaf mem
  obtain ⟨members, node, condition⟩ :=
    Node.exists_definition_of_mem_leavesAt passes v read h mem
  obtain ⟨literal, found, same⟩ := Condition.exists_literal_of_ofJson condition
  rw [same]
  exact isFlat_of_isLiteral (isLiteral_of_isNode node found) (same ▸ leaf.2.usable)

theorem ensure_eq_nil_iff {ok : Bool} {problem : Problem} :
    ensure ok problem = [] ↔ ok = true := by
  cases ok <;> simp [ensure]

/-- The properties of a rule without problems have none. -/
theorem check_of_ruleProblems {v w : Json} (h : ruleProblems v = []) {name : String}
    {check : Json → List Problem} (checked : (name, check) ∈ propertyChecks)
    (found : v.get? name = some w) : check w = [] := by
  cases v with
  | object members =>
    replace h := List.flatMap_eq_nil_iff.1 (List.append_eq_nil_iff.1 h).2 _ checked
    have there : members.lookup name = some w := found
    dsimp only at h
    rwa [there] at h
  | _ => cases found

theorem isNode_of_ruleProblems {v definition : Json} (h : ruleProblems v = [])
    (found : v.get? "ast" = some definition) : isNode definition = true := by
  have problems : nodeProblems definition = [] :=
    check_of_ruleProblems h (by simp [propertyChecks]) found
  exact ensure_eq_nil_iff.1 problems

theorem ruleProblems_of_problems {document : Json} {items : List Json}
    (h : problems document = []) (found : document.get? "rules" = some (.array items)) :
    ∀ v ∈ items, ruleProblems v = [] := by
  cases document with
  | object members =>
    have there : members.lookup "rules" = some (.array items) := found
    rw [problems, there] at h
    exact List.flatMap_eq_nil_iff.1 h
  | _ => cases found

/-- The literals of a registry are flat if its document has no problems. -/
theorem isFlat_of_problems {document : Json} {registry : Registry} (h : problems document = [])
    (loaded : Registry.ofJson document = .ok registry) :
    ∀ r ∈ registry.rules, ∀ leaf ∈ r.tree.leaves, IsFlat leaf.2.literal := by
  intro r mem
  obtain ⟨items, found, item, listed, read⟩ := Registry.exists_definition_of_mem_rules loaded mem
  obtain ⟨definition, there, tree⟩ := Rule.exists_tree_of_ofJson read
  exact isFlat_of_mem_leaves
    (isNode_of_ruleProblems (ruleProblems_of_problems h found item listed) there) tree

end RuleActivation.Schema
