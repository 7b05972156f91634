import RuleActivation.Proofs.Rule.Failure
import RuleActivation.Proofs.Rule.Rereading
import RuleActivation.Proofs.Synthesis.Spelling

/-!
# How a rule can be spelled

A rule has many definitions. Operators have other spellings than their names, numbers can be spelled
in several ways, a rule that is active need not say so, and members that are not asked for can be
anything. All of these definitions are read as equal rules, and no other definition is.

Only one of them is written. It is read as a rule with the same parts, whose literals have lost
nothing but the reasons for absences, and this rule is written in the same way again.

## Main definitions

* `Node.Spells`, `Rule.Spells`: the definitions of a tree, or of a rule
* `Rule.Equal`: rules that differ at most in the spelling of numbers
* `Rule.KeptAs`: what a rule keeps when it is written and read

## Main results

* `Node.spells_iff`, `Rule.spells_iff`: the definitions that are read as an equal tree, or rule
* `Rule.ofJson_toJson_spells_iff`: what comes back of a rule
-/

namespace RuleActivation

open List (Forall₂)

/-! ## Spellings -/

/-- A definition spells a condition: it names its variable, it has some spelling of its operator,
and its literal is read as an equal one. -/
structure Condition.Spells (v : Json) (c : Condition) : Prop where
  type : v.get? "type" = some (.string "condition")
  variableName : v.get? "variable" = some (.string c.variableName)
  operator : ∃ spelling, v.get? "operator" = some (.string spelling) ∧
    Operator.ofName? spelling = some c.operator
  literal : ∃ x, v.get? "value" = some x ∧ (Value.ofJson x == c.literal) = true

mutual

/-- A definition spells a tree. Members that are not mentioned can be anything. -/
inductive Node.Spells : Json → Node → Prop where
  | leaf {v : Json} {c : Condition} (h : Condition.Spells v c) : Node.Spells v (.leaf c)
  | junction {v : Json} {items : List Json} {k : Connective} {cs : Children}
    (type : v.get? "type" = some (.string k.name))
    (listed : v.get? "children" = some (.array items)) (h : Children.Spells items cs) :
    Node.Spells v (.junction k cs)

/-- Definitions spell a list of children, one by one. -/
inductive Children.Spells : List Json → Children → Prop where
  | one {v : Json} {n : Node} (h : Node.Spells v n) : Children.Spells [v] (.one n)
  | more {v : Json} {vs : List Json} {n : Node} {rest : Children} (h : Node.Spells v n)
    (hs : Children.Spells vs rest) : Children.Spells (v :: vs) (.more n rest)

end

/-- A definition spells a rule with a name. If the rule is active, this need not be mentioned. -/
structure Rule.Spells (v : Json) (r : Rule) : Prop where
  id : (v.get? "id").bind Json.asInt64? = some r.id
  name : v.get? "name" = some (.string r.name)
  named : r.name ≠ ""
  title : v.get? "title" = some (.string r.title)
  active : v.get? "active" = some (.bool r.active) ∨ (v.get? "active" = none ∧ r.active = true)
  tree : ∃ definition, v.get? "ast" = some definition ∧ Node.Spells definition r.tree

/-- Rules that differ at most in the spelling of the numbers in their literals. -/
structure Rule.Equal (r s : Rule) : Prop where
  id : r.id = s.id
  name : r.name = s.name
  title : r.title = s.title
  active : r.active = s.active
  tree : (r.tree == s.tree) = true

/-! ## Literals -/

theorem Value.isScalar_congr {a b : Value} (h : (a == b) = true) : a.isScalar = b.isScalar := by
  cases beq_iff_equal.1 h <;> rfl

theorem Value.any_isAbsent_congr {as bs : List Value} (h : Forall₂ (· == ·) as bs) :
    as.any isAbsent = bs.any isAbsent := by
  induction h with
  | nil => rfl
  | cons first _ ih => rw [List.any_cons, List.any_cons, isAbsent_congr first, ih]

/-- Equal literals can be used with the same operators. -/
theorem Operator.fault?_congr {a b : Value} (op : Operator) (h : (a == b) = true) :
    op.fault? a = op.fault? b := by
  cases Value.beq_iff_equal.1 h with
  | @list as bs h =>
    have items := Value.sameItems_iff_forall₂.1 h
    cases op with
    | equals => rw [fault?, fault?, Value.any_isAbsent_congr items]
    | inList =>
      have found : Option.Rel (· == ·) (as.find? (!·.isScalar)) (bs.find? (!·.isScalar)) :=
        rel_find? (fun _ _ equal => congrArg (!·) (Value.isScalar_congr equal)) items
      rw [fault?, fault?]
      generalize as.find? (!·.isScalar) = x, bs.find? (!·.isScalar) = y at found
      cases found with
      | some equal => exact congrArg (some ∘ LiteralFault.itemKind) (Value.kind_congr equal)
      | none => rfl
    | contains | greaterThan | lessOrEqual => rfl
  | _ => cases op <;> rfl

/-! ## Conditions -/

namespace Condition

variable {v : Json} {c d : Condition}

/-- A definition that spells a condition is read as an equal one. -/
theorem Spells.exists_ofJson (h : Spells v c) : ∃ d, ofJson v = .ok d ∧ (d == c) = true := by
  obtain ⟨spelling, spelled, known⟩ := h.operator
  obtain ⟨x, there, equal⟩ := h.literal
  let d : Condition :=
    ⟨c.variableName, c.operator, Value.ofJson x, c.named,
      (c.operator.fault?_congr equal).trans c.usable⟩
  refine ⟨d, ?_, beq_iff.2 ⟨rfl, rfl, equal⟩⟩
  rw [ofJson_of_get? h.variableName spelled known there]
  exact congrArg _ d.make_eq_ok

/-- A definition that is read as a condition spells all equal ones. -/
theorem spells_of_ofJson (type : v.get? "type" = some (.string "condition"))
    (h : ofJson v = .ok d) (equal : (d == c) = true) : Spells v c := by
  obtain ⟨name, variableThere, h⟩ := bind_eq_ok_iff.1 h
  obtain ⟨spelling, operatorThere, h⟩ := bind_eq_ok_iff.1 h
  obtain ⟨op, known, h⟩ := bind_eq_ok_iff.1 h
  obtain ⟨x, literalThere, made⟩ := bind_eq_ok_iff.1 h
  obtain ⟨rfl, rfl, literal⟩ := parts_of_make (mapError_eq_ok_iff.1 made)
  obtain ⟨sameVariable, sameOperator, sameLiteral⟩ := beq_iff.1 equal
  rw [DefinitionFault.require_eq_ok_iff] at variableThere operatorThere known literalThere
  rw [Json.bind_asText?_eq_some_iff] at variableThere operatorThere
  exact ⟨type, sameVariable ▸ variableThere, ⟨spelling, operatorThere, sameOperator ▸ known⟩,
    ⟨x, literalThere, literal ▸ sameLiteral⟩⟩

end Condition

/-! ## Trees -/

namespace Node

variable {rule : Int64} {p : Position} {v : Json} {n m : Node}

mutual

/-- A definition that spells a tree is read as an equal one. -/
theorem Spells.exists_ofJson {v : Json} {n : Node} (h : Spells v n) (rule : Int64)
    (p : Position) :
    ∃ m, ofJson rule p v = .ok m ∧ Related (· == ·) m n := by
  cases h with
  | leaf h =>
    have typed : NodeType.ofJson v = .ok .condition := NodeType.ofJson_of_get? h.type
    obtain ⟨d, read, equal⟩ := h.exists_ofJson
    refine ⟨.leaf d, ?_, .leaf equal⟩
    rw [ofJson_of_condition typed, read]
    rfl
  | @junction _ items k cs type listed h =>
    have typed : NodeType.ofJson v = .ok (.junction k) := by
      rw [NodeType.ofJson_of_get? type, NodeType.ofName_connective]
    obtain ⟨ds, read, equal⟩ := Spells.exists_ofItems h rule p 0
    refine ⟨.junction k ds, ?_, .junction k equal⟩
    rw [ofJson_of_junction typed, listed]
    refine bind_eq_ok_iff.2 ⟨_, read, ?_⟩
    rw [join_toList]
    rfl

theorem Spells.exists_ofItems {items : List Json} {cs : Children} (h : Children.Spells items cs)
    (rule : Int64) (p : Position) (index : Nat) :
    ∃ ds : Children, ofItems rule p index items = .ok ds.toList ∧
      Children.Related (· == ·) ds cs := by
  cases h with
  | one h =>
    obtain ⟨m, read, equal⟩ := Spells.exists_ofJson h rule (p.child index)
    refine ⟨.one m, ?_, .one equal⟩
    rw [ofItems, read]
    rfl
  | more h hs =>
    obtain ⟨m, read, equal⟩ := Spells.exists_ofJson h rule (p.child index)
    obtain ⟨ms, others, equals⟩ := Spells.exists_ofItems hs rule p (index + 1)
    refine ⟨.more m ms, ?_, .more equal equals⟩
    rw [ofItems, read, others]
    rfl

end

/-- Items of which children are read spell all equal ones, if this holds of each of them. -/
theorem spells_of_ofItems {items : List Json} {index : Nat} {cs ds : Children}
    (each : ∀ w ∈ items, ∀ {p : Position} {m n : Node}, ofJson rule p w = .ok m →
      Related (· == ·) m n → Spells w n)
    (h : ofItems rule p index items = .ok ds.toList) (equal : Children.Related (· == ·) ds cs) :
    Children.Spells items cs := by
  induction items generalizing index cs ds with
  | nil => exact absurd (Except.ok.inj h).symm ds.toList_ne_nil
  | cons v vs ih =>
    obtain ⟨first, others⟩ := List.forall_mem_cons.1 each
    rw [ofItems] at h
    obtain ⟨m, read, h⟩ := bind_eq_ok_iff.1 h
    obtain ⟨ms, later, same⟩ := bind_eq_ok_iff.1 h
    have listed : m :: ms = ds.toList := Except.ok.inj same
    cases equal with
    | one equal =>
      obtain ⟨rfl, rfl⟩ := List.cons.inj listed
      obtain rfl := ofItems_eq_ok_nil_iff.1 later
      exact .one (first read equal)
    | more equal equals =>
      obtain ⟨rfl, rfl⟩ := List.cons.inj listed
      exact .more (first read equal) (ih others later equals)

/-- A definition that is read as a tree spells all equal ones. The induction is on the definition,
since the tree does not tell which members it has. -/
theorem spells_of_ofJson (h : ofJson rule p v = .ok m) (equal : Related (· == ·) m n) :
    Spells v n := by
  induction v using Json.induction_on_children generalizing p m n with
  | step v ih =>
    rcases ofJson_eq_ok_iff.1 h with
      ⟨type, d, defined, rfl⟩ | ⟨k, items, ds, type, listed, read, rfl⟩
    · cases equal with
      | leaf equal => exact .leaf (Condition.spells_of_ofJson type defined equal)
    · cases equal with
      | junction k equal =>
        refine .junction type listed (spells_of_ofItems (fun w mem => ?_) read equal)
        obtain ⟨i, item⟩ := List.mem_iff_getElem?.1 mem
        exact ih i w (Json.child?_eq_some_iff.2 ⟨items, listed, item⟩)

/-- The definitions that spell a tree are those that are read as an equal one. -/
theorem spells_iff : Spells v n ↔ ∃ m, ofJson rule p v = .ok m ∧ (m == n) = true := by
  constructor
  · intro h
    obtain ⟨m, read, equal⟩ := h.exists_ofJson rule p
    exact ⟨m, read, beq_iff_related.2 equal⟩
  · rintro ⟨m, read, equal⟩
    exact spells_of_ofJson read (beq_iff_related.1 equal)

end Node

/-! ## Rules -/

namespace Rule

variable {v : Json} {r s : Rule}

/-- A definition that spells a rule is read as an equal one. -/
theorem Spells.exists_ofJson (h : Spells v r) : ∃ s, ofJson v = .ok s ∧ s.Equal r := by
  have nameRead : nameOf v = .ok r.name := nameOf_eq_ok_iff.2 ⟨h.name, h.named⟩
  have titleRead : textOf v "title" = .ok r.title := textOf_eq_ok_iff.2 h.title
  have activeRead : activeOf v = .ok r.active := activeOf_eq_ok_iff.2 h.active
  obtain ⟨definition, there, tree⟩ := h.tree
  obtain ⟨m, read, equal⟩ := tree.exists_ofJson r.id .root
  refine ⟨{ r with tree := m }, ofJson_eq_ok_iff.2 ?_, rfl, rfl, rfl, rfl,
    Node.beq_iff_related.2 equal⟩
  exact ⟨h.id, nameRead, titleRead, activeRead, definition, there, read⟩

/-- A definition that is read as a rule spells all equal ones. -/
theorem spells_of_ofJson (h : ofJson v = .ok s) (equal : s.Equal r) : Spells v r := by
  obtain ⟨number, nameRead, titleRead, activeRead, definition, there, read⟩ :=
    ofJson_eq_ok_iff.1 h
  rw [equal.id] at number
  rw [equal.name] at nameRead
  rw [equal.title] at titleRead
  rw [equal.active] at activeRead
  obtain ⟨nameThere, named⟩ := nameOf_eq_ok_iff.1 nameRead
  exact ⟨number, nameThere, named, textOf_eq_ok_iff.1 titleRead, activeOf_eq_ok_iff.1 activeRead,
    definition, there, Node.spells_of_ofJson read (Node.beq_iff_related.1 equal.tree)⟩

/-- The definitions that spell a rule are those that are read as an equal one. -/
theorem spells_iff : Spells v r ↔ ∃ s, ofJson v = .ok s ∧ s.Equal r :=
  ⟨Spells.exists_ofJson, fun ⟨_, read, equal⟩ => spells_of_ofJson read equal⟩

/-- Equal rules are written in the same way. -/
theorem Equal.toJson_eq (h : r.Equal s) : r.toJson = s.toJson := by
  rw [toJson, toJson, h.id, h.name, h.title, h.active, Node.toJson_eq_of_beq h.tree]

end Rule

/-! ## Writing and reading -/

/-- A condition has the variable and the operator of another one, and its literal but for the
reasons for absences. -/
structure Condition.KeptAs (c d : Condition) : Prop where
  variableName : d.variableName = c.variableName
  operator : d.operator = c.operator
  literal : (d.literal == c.literal.withNull) = true

/-- A rule has the parts of another one, but for the reasons for absences in literals, and cannot be
told from it when both are written. -/
structure Rule.KeptAs (r r' : Rule) : Prop where
  id : r'.id = r.id
  name : r'.name = r.name
  title : r'.title = r.title
  active : r'.active = r.active
  tree : Node.Related Condition.KeptAs r.tree r'.tree
  toJson : r'.toJson = r.toJson
  fingerprint : r'.tree.fingerprint = r.tree.fingerprint

theorem Condition.keptAs_plain (c : Condition) : c.KeptAs c.plain :=
  ⟨rfl, rfl, c.literal.plain_beq_withNull⟩

theorem Condition.KeptAs.toJson_eq {c d : Condition} (h : c.KeptAs d) : d.toJson = c.toJson := by
  rw [toJson, toJson, h.variableName, h.operator, Value.toJson_eq_of_beq h.literal,
    Value.toJson_withNull]

namespace Node

mutual

theorem keptAs_plain (n : Node) : Related Condition.KeptAs n n.plain := by
  match n with
  | .leaf c => exact .leaf c.keptAs_plain
  | .junction k cs => exact .junction k (keptAs_plainChildren cs)

theorem keptAs_plainChildren (cs : Children) :
    Children.Related Condition.KeptAs cs (plainChildren cs) := by
  match cs with
  | .one n => exact .one (keptAs_plain n)
  | .more n rest => exact .more (keptAs_plain n) (keptAs_plainChildren rest)

end

end Node

/-- A rule is kept as the one with the plain tree. -/
theorem Rule.keptAs_plain (r : Rule) : r.KeptAs r.plain := by
  have tree := r.tree.keptAs_plain
  have definition : r.plain.tree.toJson = r.tree.toJson :=
    (tree.mono fun _ _ kept => kept.toJson_eq.symm).toJson_eq.symm
  refine ⟨rfl, rfl, rfl, rfl, tree, ?_, ?_⟩
  · rw [toJson, toJson, definition]
    rfl
  · rw [Node.fingerprint, Node.fingerprint, definition]

theorem Rule.exists_keptAs_iff {r : Rule} :
    (∃ r', ofJson r.toJson = .ok r' ∧ r.KeptAs r') ↔ r.name ≠ "" := by
  constructor
  · rintro ⟨r', read, kept⟩
    rw [← kept.name]
    exact (name_of_ofJson read).2
  · intro named
    exact ⟨r.plain, ofJson_toJson named, r.keptAs_plain⟩

/-- A rule that has been read, or any other one with a name, can be written and read again. It then
has the same parts but for the reasons for absences in its literals, and it is written in the same
way. How the rule was spelled at first makes no difference: a definition that spells it is read as a
rule that is written as the same definition, and the definitions that spell it are all those that
are read as an equal rule. -/
theorem Rule.ofJson_toJson_spells_iff (r : Rule) :
    (∀ v, ofJson v = .ok r → ∃ r', ofJson r.toJson = .ok r' ∧ r.KeptAs r') ∧
    ((∃ r', ofJson r.toJson = .ok r' ∧ r.KeptAs r') ↔ r.name ≠ "") ∧
    ∀ v, Spells v r ↔ ∃ s, ofJson v = .ok s ∧ s.Equal r ∧ s.toJson = r.toJson := by
  refine ⟨fun v read => exists_keptAs_iff.2 (name_of_ofJson read).2, exists_keptAs_iff,
    fun v => spells_iff.trans ?_⟩
  exact exists_congr fun s =>
    and_congr_right fun _ => ⟨fun equal => ⟨equal, equal.toJson_eq⟩, And.left⟩

end RuleActivation
