import RuleActivation.Proofs.Rule.Rereading
import RuleActivation.Proofs.Schema

/-!
# Definitions that are written

The loader admits more literals than the schema: a list to be equal to may hold lists. What is
written of a registry that has been loaded always loads again, and the schema finds no fault with it
but such literals, tree by tree. If rules without a name have been put into a registry, the schema
and the loader refuse them.

## Main definitions

* `Value.isNested`, `Node.isNested`: lists in lists, and trees with such a literal

## Main results

* `Binary64.isInteger_nearest`: an integer stays one when it is rounded to a binary number
* `Schema.isLiteral_toJson_of_usable`, `Schema.isNode_toJson`: what the schema thinks of written
  literals and trees
* `Schema.problems_toJson`: what it thinks of written registries
-/

namespace RuleActivation

/-! ## Numbers of rules -/

namespace Binary64

theorem Ratio.round_of_den_eq_one (m : Nat) : Ratio.round ⟨m, 1⟩ = m := by
  simp [round, Nat.mod_one]

/-- An integer divided by a negative power of two. -/
theorem Ratio.div_ofBinary_neg (m k : Nat) :
    (Ratio.mk m 1).div (.ofBinary 1 (-((k : Int) + 1))) = ⟨m * 2 ^ (k + 1), 1⟩ := by
  have negative : ¬ (0 : Int) ≤ -((k : Int) + 1) := by omega
  have exponent : (-(-((k : Int) + 1))).toNat = k + 1 := by omega
  rw [ofBinary, if_neg negative, exponent]
  rfl

theorem isInteger_of_nonneg {n : Nat} {e : Int} (h : 0 ≤ e) : (mk n e).isInteger = true := by
  rw [isInteger, decide_eq_true h, Bool.true_or]

theorem isInteger_mul_pow (m k : Nat) : (mk (m * 2 ^ k) (-(k : Int))).isInteger = true := by
  rw [isInteger, Int.neg_neg, Int.toNat_natCast]
  exact Bool.or_eq_true_iff.2 (.inr (beq_iff_eq.2 (Nat.mul_mod_left m _)))

theorem isInteger_zero : zero.isInteger = true := by
  rw [zero, isInteger, Nat.zero_mod]
  exact Bool.or_true _

/-- The binary number nearest to an integer is an integer. -/
theorem isInteger_nearest (m : Nat) : (nearest ⟨m, 1⟩).isInteger = true := by
  unfold nearest
  split
  · exact isInteger_zero
  generalize exponentOf ⟨m, 1⟩ = e
  dsimp only
  rcases Int.lt_or_le e 0 with negative | nonneg
  · obtain ⟨k, rfl⟩ : ∃ k : Nat, e = -((k : Int) + 1) := ⟨(-e - 1).toNat, by omega⟩
    rw [Ratio.div_ofBinary_neg, Ratio.round_of_den_eq_one]
    split
    · rename_i carried
      have same : leastNormal = m * 2 ^ k := by
        rw [Nat.pow_succ, ← Nat.mul_assoc] at carried
        omega
      rw [same, show -((k : Int) + 1) + 1 = -(k : Int) by omega]
      exact isInteger_mul_pow m k
    · exact isInteger_mul_pow m (k + 1)
  · split
    · exact isInteger_of_nonneg (by omega)
    · exact isInteger_of_nonneg nonneg

end Binary64

/-- The number of a rule is an integer to the schema. -/
theorem Schema.isInteger_ofInt (i : Int) : isInteger (.ofInt i) = true := by
  rw [isInteger, Binary64.ofNumber?]
  split
  · exact Binary64.isInteger_zero
  split
  · rfl
  have ratio : Binary64.Ratio.ofDecimal (Json.Number.ofInt i).coefficient
      (Json.Number.ofInt i).power = ⟨i.natAbs, 1⟩ := by
    simp [Binary64.Ratio.ofDecimal, Json.Number.coefficient, Json.Number.power, Json.Number.ofInt]
  rw [ratio, Binary64.nearest?]
  split
  · rfl
  · exact Binary64.isInteger_nearest i.natAbs

/-! ## Literals -/

namespace Value

/-- Whether a value is a list that holds a list. -/
def isNested : Value → Bool
  | list items => items.any fun item => item.kind == .list
  | _ => false

/-- Without absences, the lists that are not nested hold scalars. -/
theorem isScalar_eq_of_not_isAbsent {v : Value} (h : v.isAbsent = false) :
    v.isScalar = !(v.kind == .list) := by
  cases v <;> first | rfl | cases h

theorem toJsonItems_eq_map (items : List Value) : toJsonItems items = items.map toJson := by
  induction items with
  | nil => rfl
  | cons v vs ih => rw [toJsonItems, ih, List.map_cons]

end Value

/-- Whether a tree has a literal that is a list with a list in it. -/
def Node.isNested (n : Node) : Bool := n.leaves.any fun leaf => leaf.2.literal.isNested

/-- A list that can be used holds no absence. -/
theorem Operator.isAbsent_of_mem_of_usable {op : Operator} {items : List Value}
    (h : op.fault? (.list items) = none) : ∀ item ∈ items, item.isAbsent = false := by
  intro item mem
  cases op with
  | equals =>
    have present : ∀ v ∈ items, v.isAbsent = false := by simpa [fault?] using h
    exact present item mem
  | inList =>
    have scalar := isScalar_of_mem_of_usable h mem
    cases item <;> first | rfl | cases scalar
  | contains | greaterThan | lessOrEqual => cases h

namespace Schema

theorem isScalar_toJson (v : Value) : isScalar v.toJson = v.isScalar := by
  cases v <;> rfl

/-- A literal that can be used is one of the schema, unless it is nested. -/
theorem isLiteral_toJson_of_usable {op : Operator} {literal : Value}
    (h : op.fault? literal = none) : isLiteral literal.toJson = !literal.isNested := by
  cases literal with
  | list items =>
    rw [Value.toJson, isLiteral, Value.toJsonItems_eq_map, List.all_map, Value.isNested,
      List.not_any_eq_all_not, Bool.eq_iff_iff, List.all_eq_true, List.all_eq_true]
    refine forall₂_congr fun item mem => ?_
    have present := Operator.isAbsent_of_mem_of_usable h item mem
    rw [Function.comp_apply, isScalar_toJson, Value.isScalar_eq_of_not_isAbsent present]
  | absent reason => cases Operator.isAbsent_of_usable h
  | _ => rfl

/-! ## Trees -/

/-- A condition is one of the schema, unless its literal is nested. -/
theorem isNode_toJson_leaf (c : Condition) : isNode c.toJson = !c.literal.isNested := by
  rw [← isLiteral_toJson_of_usable c.usable, Condition.toJson, isNode]
  simp [isCondition, isConditionMember, areJunctionMembers, Dictionary.lookup_cons_eq_if, c.named,
    Json.asText?]

/-- A node with children is one of the schema if its children are. -/
theorem isNode_toJson_junction (k : Connective) (cs : Children) :
    isNode (Node.junction k cs).toJson = areNodes (Node.toJsonChildren cs) := by
  have type : isJunctionType (.string k.name) = true := by cases k <;> rfl
  have children : (Node.toJsonChildren cs).isEmpty = false :=
    List.isEmpty_eq_false_iff.2 (Node.toJsonChildren_ne_nil cs)
  rw [Node.toJson, isNode]
  simp [isCondition, isConditionMember, areJunctionMembers, Dictionary.lookup_cons_eq_if, type,
    children]

mutual

/-- A tree is written as the schema wants it, unless the literal of a leaf is nested. -/
theorem isNode_toJson_leavesAt (n : Node) (p : Position) :
    isNode n.toJson = !(n.leavesAt p).any fun leaf => leaf.2.literal.isNested := by
  match n with
  | .leaf c => rw [Node.toJson, isNode_toJson_leaf, Node.leavesAt, List.any_cons, List.any_nil,
      Bool.or_false]
  | .junction k cs =>
    rw [isNode_toJson_junction, Node.leavesAt, areNodes_toJsonChildren cs p 0]

theorem areNodes_toJsonChildren (cs : Children) (p : Position) (index : Nat) :
    areNodes (Node.toJsonChildren cs) =
      !(Node.childLeaves p index cs).any fun leaf => leaf.2.literal.isNested := by
  match cs with
  | .one n =>
    rw [Node.toJsonChildren, areNodes, areNodes, Bool.and_true, Node.childLeaves,
      isNode_toJson_leavesAt n]
  | .more n rest =>
    rw [Node.toJsonChildren, areNodes, Node.childLeaves, List.any_append, Bool.not_or,
      isNode_toJson_leavesAt n, areNodes_toJsonChildren rest]

end

/-- A tree is one of the schema, unless it has a nested literal. -/
theorem isNode_toJson (n : Node) : isNode n.toJson = !n.isNested := isNode_toJson_leavesAt n .root

/-! ## Rules and registries -/

/-- The schema finds no fault with a rule but its tree and the lack of a name. -/
theorem ruleProblems_toJson (r : Rule) :
    ruleProblems r.toJson =
      (if r.tree.isNested then [.noAlternative r.tree.toJson] else []) ++
        if r.name = "" then [.tooShort (.string "")] else [] := by
  have number : integerProblems (Json.ofInt r.id.toInt) = [] :=
    ensure_eq_nil_iff.2 (isInteger_ofInt r.id.toInt)
  have name : nameProblems (.string r.name) =
      if r.name = "" then [.tooShort (.string "")] else [] := by
    by_cases unnamed : r.name = ""
    · rw [if_pos unnamed, unnamed]
      rfl
    · rw [if_neg unnamed]
      simp [nameProblems, textProblems, Json.asText?, ensure, unnamed]
  rw [Rule.toJson, ruleProblems]
  simp [requiredProperties, propertyChecks, Dictionary.lookup_cons_eq_if, number, name,
    nodeProblems, isNode_toJson, boolProblems, textProblems, Json.asBool?, Json.asText?, ensure]
  cases r.tree.isNested <;> rfl

theorem flatMap_ite_eq_map_filter {α β : Type} (p : α → Bool) (f : α → β) (xs : List α) :
    (xs.flatMap fun x => if p x then [f x] else []) = (xs.filter p).map f := by
  induction xs with
  | nil => rfl
  | cons x xs ih => cases h : p x <;> simp [h, ih]

/-- The schema finds no fault with a registry that is written but its nested literals and the rules
without a name. -/
theorem problems_toJson_eq (registry : Registry) :
    problems registry.toJson = registry.rules.flatMap fun r =>
      (if r.tree.isNested then [.noAlternative r.tree.toJson] else []) ++
        if r.name = "" then [.tooShort (.string "")] else [] := by
  rw [← funext ruleProblems_toJson]
  show (registry.rules.map Rule.toJson).flatMap ruleProblems = _
  rw [List.flatMap_map]

theorem problems_toJson_of_named {registry : Registry} (named : ∀ r ∈ registry.rules, r.name ≠ "") :
    problems registry.toJson = (registry.rules.filter fun r => r.tree.isNested).map fun r =>
      .noAlternative r.tree.toJson := by
  rw [← flatMap_ite_eq_map_filter, problems_toJson_eq]
  refine List.flatMap_congr fun r mem => ?_
  rw [if_neg (named r mem), List.append_nil]

theorem isNested_eq_false_of_isFlat {v : Value} (h : IsFlat v) : v.isNested = false := by
  cases v with
  | list items =>
    refine List.any_eq_false.2 fun item mem => ?_
    have scalar := h item mem
    cases item <;> first | exact Bool.false_ne_true | cases scalar
  | _ => rfl

/-- A registry that has been loaded and is written loads again, as the registry of the plain rules.
The schema finds fault with its rules that have a literal with a list in a list, and with nothing
else; with nothing at all if the registry comes from a document without problems. Of any other
registry this holds as well, unless it has rules without a name. With these the schema finds fault,
and the registry does not load again. -/
theorem problems_toJson (registry : Registry) :
    (∀ document, Registry.ofJson document = .ok registry →
      problems registry.toJson = ((registry.rules.filter fun r => r.tree.isNested).map fun r =>
        .noAlternative r.tree.toJson) ∧
      (∃ registry', Registry.ofJson registry.toJson = .ok registry' ∧
        registry'.rules = registry.rules.map Rule.plain) ∧
      (problems document = [] → problems registry.toJson = [])) ∧
    problems registry.toJson = (registry.rules.flatMap fun r =>
      (if r.tree.isNested then [.noAlternative r.tree.toJson] else []) ++
        if r.name = "" then [.tooShort (.string "")] else []) ∧
    ((∃ registry', Registry.ofJson registry.toJson = .ok registry' ∧
      registry'.rules = registry.rules.map Rule.plain) ↔ ∀ r ∈ registry.rules, r.name ≠ "") := by
  refine ⟨fun document loaded => ?_, problems_toJson_eq registry,
    Registry.exists_ofJson_toJson_iff⟩
  have named := Registry.name_ne_of_ofJson loaded
  refine ⟨problems_toJson_of_named named, Registry.exists_ofJson_toJson named, fun valid => ?_⟩
  rw [problems_toJson_of_named named, List.map_eq_nil_iff, List.filter_eq_nil_iff]
  intro r mem nested
  obtain ⟨leaf, there, listInList⟩ := List.any_eq_true.1 nested
  rw [isNested_eq_false_of_isFlat (isFlat_of_problems valid loaded r mem leaf there)] at listInList
  cases listInList

/-- A list in a list is written as it was read, and the schema refuses it. -/
theorem exists_ofJson_eq_ok_problems_toJson_ne_nil :
    ∃ document registry, Registry.ofJson document = .ok registry ∧
      problems registry.toJson ≠ [] :=
  ⟨.object [("rules", .array [.object [("id", .ofInt 1), ("name", .string "a"),
      ("title", .string "t"), ("ast", .object [("type", .string "condition"),
        ("variable", .string "x"), ("operator", .string "equals"),
        ("value", .array [.array [.ofInt 1]])])]])], _, rfl, nofun⟩

end Schema

end RuleActivation
