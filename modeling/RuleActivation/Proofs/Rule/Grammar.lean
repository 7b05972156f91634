import RuleActivation.Proofs.Rule.Spelling

/-!
# The grammar of trees

Which JSON values define a tree can be told without reading them: a condition names its variable and
has a known operator and a literal that the operator can be used with, and any other node lists
children, at least one, that define trees as well. These are the definitions that are read.

What is read has the shape of its definition. A position of the tree leads through the definition in
the same way, and what stands there in the tree is read from what stands there in the definition.
Only the children that a node joins count: a condition may have a member `children`, as it may have
any other member that is not asked for, and what this lists is not read.

## Main definitions

* `Json.DefinesTree`: the grammar

## Main results

* `Json.definesTree_iff_exists_spells`: the definitions of the grammar spell trees
* `Node.exists_ofJson_iff`: the definitions of the grammar are read
* `Node.exists_leadsTo_of_follow`, `Node.exists_follow_of_leadsTo`: positions in a tree and in its
  definition
* `Node.ofJson_recognizes`: the definitions that are read, and what is read at each position
-/

namespace RuleActivation

/-- The operator that a spelling stands for is told by a list. -/
theorem Operator.ofName?_eq_some_iff {spelling : String} {op : Operator} :
    ofName? spelling = some op ↔ (spelling, op) ∈ spellings := by
  have each : ∀ entry ∈ spellings, ofName? entry.1 = some entry.2 := by decide
  exact ⟨Dictionary.mem_of_lookup_eq_some, each (spelling, op)⟩

/-! ## The grammar -/

/-- The definitions of trees. Members that are not mentioned can be anything. -/
inductive Json.DefinesTree : Json → Prop where
  | condition {v literal : Json} {name spelling : String} {op : Operator}
    (type : v.get? "type" = some (.string "condition"))
    (variableName : v.get? "variable" = some (.string name)) (named : name ≠ "")
    (operator : v.get? "operator" = some (.string spelling))
    (known : (spelling, op) ∈ Operator.spellings) (value : v.get? "value" = some literal)
    (usable : op.fault? (Value.ofJson literal) = none) : DefinesTree v
  | junction {v : Json} {items : List Json} {k : Connective}
    (type : v.get? "type" = some (.string k.name))
    (listed : v.get? "children" = some (.array items)) (nonempty : items ≠ [])
    (each : ∀ w ∈ items, w.DefinesTree) : DefinesTree v

/-- Definitions that spell trees, at least one, spell a list of children. -/
theorem Children.exists_spells {items : List Json} (nonempty : items ≠ [])
    (each : ∀ w ∈ items, ∃ n, Node.Spells w n) : ∃ cs, Children.Spells items cs := by
  induction items with
  | nil => exact absurd rfl nonempty
  | cons v vs ih =>
    obtain ⟨⟨n, first⟩, others⟩ := List.forall_mem_cons.1 each
    cases vs with
    | nil => exact ⟨.one n, .one first⟩
    | cons w ws =>
      obtain ⟨rest, later⟩ := ih (List.cons_ne_nil w ws) others
      exact ⟨.more n rest, .more first later⟩

mutual

theorem Node.Spells.definesTree {v : Json} {n : Node} (h : Node.Spells v n) : v.DefinesTree := by
  cases h with
  | @leaf _ c h =>
    obtain ⟨spelling, spelled, known⟩ := h.operator
    obtain ⟨literal, there, equal⟩ := h.literal
    exact .condition h.type h.variableName c.named spelled (Operator.ofName?_eq_some_iff.1 known)
      there ((c.operator.fault?_congr equal).trans c.usable)
  | junction type listed h =>
    obtain ⟨nonempty, each⟩ := h.definesTree
    exact .junction type listed nonempty each

theorem Children.Spells.definesTree {items : List Json} {cs : Children}
    (h : Children.Spells items cs) : items ≠ [] ∧ ∀ w ∈ items, w.DefinesTree := by
  cases h with
  | one h => exact ⟨List.cons_ne_nil _ _, List.forall_mem_singleton.2 h.definesTree⟩
  | more h hs =>
    exact ⟨List.cons_ne_nil _ _, List.forall_mem_cons.2 ⟨h.definesTree, hs.definesTree.2⟩⟩

end

/-- The definitions of the grammar are those that spell a tree. -/
theorem Json.definesTree_iff_exists_spells {v : Json} : v.DefinesTree ↔ ∃ n, Node.Spells v n := by
  constructor
  · intro h
    induction h with
    | condition type variableName named operator known value usable =>
      exact ⟨.leaf ⟨_, _, _, named, usable⟩, .leaf ⟨type, variableName,
        ⟨_, operator, Operator.ofName?_eq_some_iff.2 known⟩, _, value, Value.beq_refl _⟩⟩
    | junction type listed nonempty each ih =>
      obtain ⟨cs, spelled⟩ := Children.exists_spells nonempty ih
      exact ⟨.junction _ cs, .junction type listed spelled⟩
  · rintro ⟨n, spelled⟩
    exact spelled.definesTree

namespace Node

variable {rule : Int64} {p : Position} {v : Json} {n m : Node}

theorem beq_self (n : Node) : (n == n) = true :=
  beq_iff_related.2 (n.related_refl.mono fun _ _ same =>
    same ▸ Condition.beq_iff.2 ⟨rfl, rfl, Value.beq_refl _⟩)

/-- The definitions that are read are those of the grammar. -/
theorem exists_ofJson_iff : (∃ n, ofJson rule p v = .ok n) ↔ v.DefinesTree := by
  rw [Json.definesTree_iff_exists_spells]
  constructor
  · rintro ⟨n, read⟩
    exact ⟨n, spells_iff.2 ⟨n, read, n.beq_self⟩⟩
  · rintro ⟨n, spelled⟩
    obtain ⟨m, read, -⟩ := spells_iff.1 spelled
    exact ⟨m, read⟩

/-! ## Positions -/

/-- A child of a node in a tree is read from the child of its definition at the same index. -/
theorem exists_isOperand_of_get? {k : Connective} {cs : Children} {i : Nat}
    (h : ofJson rule p v = .ok (.junction k cs)) (found : cs.get? i = some m) :
    ∃ w, v.IsOperand i w ∧ ofJson rule (p.child i) w = .ok m := by
  rcases ofJson_eq_ok_iff.1 h with ⟨-, _, -, same⟩ | ⟨k, items, ds, type, listed, read, same⟩
  · cases same
  · obtain ⟨rfl, rfl⟩ := Node.junction.inj same
    rw [Children.get?_eq_getElem?] at found
    obtain ⟨w, item, read⟩ := exists_item_of_getElem? read found
    exact ⟨w, ⟨⟨_, type⟩, Json.child?_eq_some_iff.2 ⟨items, listed, item⟩⟩,
      by rwa [Nat.zero_add] at read⟩

/-- A child of a definition is read as the child at the same index. -/
theorem exists_get?_of_isOperand {i : Nat} {w : Json} (h : ofJson rule p v = .ok n)
    (operand : v.IsOperand i w) :
    ∃ k cs m, n = .junction k cs ∧ cs.get? i = some m ∧ ofJson rule (p.child i) w = .ok m := by
  obtain ⟨⟨l, joins⟩, child⟩ := operand
  rcases ofJson_eq_ok_iff.1 h with ⟨condition, -⟩ | ⟨k, items, cs, -, listed, read, rfl⟩
  · have type := NodeType.ofJson_eq_condition_iff.2 condition
    rw [NodeType.ofJson_eq_junction_iff.2 joins] at type
    cases type
  · rw [Json.child?, Json.bind_asItems?_eq_some_iff.2 listed, Option.bind_some] at child
    obtain ⟨length, each⟩ := ofItems_eq_ok_iff.1 read
    obtain ⟨inside, -⟩ := List.getElem?_eq_some_iff.1 child
    have found := List.getElem?_eq_getElem (length ▸ inside : i < cs.toList.length)
    have read := each i w _ child found
    rw [Nat.zero_add] at read
    exact ⟨k, cs, _, rfl, (cs.get?_eq_getElem? i).trans found, read⟩

/-- What indices lead to in a tree is read from what they lead to in its definition. -/
theorem exists_leadsTo_of_follow {path : List Nat} (h : ofJson rule p v = .ok n)
    (found : n.follow path = some m) :
    ∃ w, v.LeadsTo path w ∧ ofJson rule ⟨p.indices ++ path⟩ w = .ok m := by
  induction path generalizing p v n with
  | nil =>
    obtain rfl := Option.some.inj found
    exact ⟨v, .root v, by rwa [List.append_nil]⟩
  | cons i path ih =>
    cases n with
    | leaf c => cases found
    | junction k cs =>
      obtain ⟨child, there, found⟩ := Option.bind_eq_some_iff.1 found
      obtain ⟨u, operand, read⟩ := exists_isOperand_of_get? h there
      obtain ⟨w, leads, read⟩ := ih read found
      rw [Position.indices_child_append] at read
      exact ⟨w, .child operand leads, read⟩

/-- What indices lead to in a definition is read as what they lead to in the tree. -/
theorem exists_follow_of_leadsTo {path : List Nat} {w : Json} (leads : v.LeadsTo path w)
    (h : ofJson rule p v = .ok n) :
    ∃ m, n.follow path = some m ∧ ofJson rule ⟨p.indices ++ path⟩ w = .ok m := by
  induction leads generalizing p n with
  | root v => exact ⟨n, by cases n <;> rfl, by rwa [List.append_nil]⟩
  | child operand _ ih =>
    obtain ⟨k, cs, child, rfl, there, read⟩ := exists_get?_of_isOperand h operand
    obtain ⟨m, found, read⟩ := ih read
    rw [Position.indices_child_append] at read
    exact ⟨m, Option.bind_eq_some_iff.2 ⟨child, there, found⟩, read⟩

/-- The definitions that are read are those of the grammar. A position leads to a node of the tree
exactly if it leads through the definition, from nodes to the children that they join, and the node
is then what is read from the definition that it leads to, for whatever rule and wherever this
definition stands. -/
theorem ofJson_recognizes (rule : Int64) (p : Position) (v : Json) :
    ((∃ n, ofJson rule p v = .ok n) ↔ v.DefinesTree) ∧
      ∀ n, ofJson rule p v = .ok n → ∀ q : Position,
        ((∃ m, n.get? q = some m) ↔ ∃ w, v.LeadsTo q.indices w) ∧
        ∀ m w, n.get? q = some m → v.LeadsTo q.indices w →
          ∀ rule' p', ofJson rule' p' w = .ok m := by
  refine ⟨exists_ofJson_iff, fun n h q => ⟨⟨?_, ?_⟩, ?_⟩⟩
  · rintro ⟨m, found⟩
    obtain ⟨w, leads, -⟩ := exists_leadsTo_of_follow h found
    exact ⟨w, leads⟩
  · rintro ⟨w, leads⟩
    obtain ⟨m, found, -⟩ := exists_follow_of_leadsTo leads h
    exact ⟨m, found⟩
  · intro m w found leads rule' p'
    obtain ⟨m', found', read⟩ := exists_follow_of_leadsTo leads h
    obtain rfl := Option.some.inj (found.symm.trans found')
    exact ofJson_eq_ok_of_ofJson read rule' p'

/-- The definition of a condition, with some members that are not asked for. -/
def conditionDefinition (variableName : String) (more : List (String × Json)) : Json :=
  .object ([("type", .string "condition"), ("variable", .string variableName),
    ("operator", .string "=="), ("value", .bool true)] ++ more)

/-- A condition that lists another one. -/
def listingDefinition : Json :=
  conditionDefinition "x" [("children", .array [conditionDefinition "y" []])]

/-- Two children, of which the first lists another condition and the second joins one. -/
theorem ofJson_recognizes_joined :
    ∃ v n m w, ofJson 1 .root v = .ok n ∧ v.DefinesTree ∧
      n.get? ⟨[1, 0]⟩ = some m ∧ v.LeadsTo [1, 0] w ∧ ofJson 2 ⟨[7]⟩ w = .ok m ∧
      ¬ ∃ w, v.LeadsTo [0, 0] w := by
  let second : Json :=
    .object [("type", .string "and"), ("children", .array [conditionDefinition "z" []])]
  let v : Json := .object [("type", .string "or"), ("children", .array [listingDefinition, second])]
  obtain ⟨n, m, read, there, nowhere⟩ : ∃ n m, ofJson 1 .root v = .ok n ∧
      n.get? ⟨[1, 0]⟩ = some m ∧ n.get? ⟨[0, 0]⟩ = none := ⟨_, _, rfl, rfl, rfl⟩
  obtain ⟨grammar, positions⟩ := ofJson_recognizes 1 .root v
  obtain ⟨leading, same⟩ := positions n read ⟨[1, 0]⟩
  obtain ⟨w, leads⟩ := leading.1 ⟨m, there⟩
  refine ⟨v, n, m, w, read, grammar.1 ⟨n, read⟩, there, leads, same m w there leads 2 ⟨[7]⟩, ?_⟩
  intro listed
  obtain ⟨_, found⟩ := (positions n read ⟨[0, 0]⟩).1.2 listed
  rw [nowhere] at found
  cases found

/-- A condition that lists another one is read as a leaf, so that nothing stands in the tree where
the definition has a member `children` with a definition that could be read. -/
theorem exists_get?_eq_none_descend?_listingDefinition :
    ∃ n w m, ofJson 1 .root listingDefinition = .ok n ∧ n.get? ⟨[0]⟩ = none ∧
      listingDefinition.descend? [0] = some w ∧ ofJson 1 ⟨[0]⟩ w = .ok m :=
  ⟨_, _, _, rfl, rfl, rfl, rfl⟩

end Node

end RuleActivation
