import RuleActivation.Proofs.Dictionary
import RuleActivation.Proofs.Success
import RuleActivation.Rule.Definition

/-!
# How definitions are read

The reader of trees looks at the type of a definition, and then at its children or at the parts of a
condition. Each step has its equation here, so that what is known of a definition and what is known
of the tree can be compared part by part.

## Main definitions

* `Json.child?`: the definition of a child

## Main results

* `Json.induction_on_children`: what holds of a definition if it holds of all of its children
* `Node.ofJson_of_condition`, `Node.ofJson_of_junction`: the reader by the type of a definition
* `Node.exists_item_of_getElem?`: the definition of a child that is read
* `Rule.ofJson_of_parts`, `Rule.ofJson_eq_ok_iff`: the reader of rules
* `Rule.name_of_ofJson`: a rule that has been read has a name
-/

namespace RuleActivation

/-! ## Faults -/

theorem DefinitionError.locate_eq_ok_iff {α : Type} {id : Option Int64} {place : DefinitionPlace}
    {x : Except DefinitionFault α} {a : α} : locate id place x = .ok a ↔ x = .ok a := by
  cases x <;> simp [locate]

theorem DefinitionFault.require_eq_ok_iff {α : Type} {fault : DefinitionFault} {x : Option α}
    {a : α} : fault.require x = .ok a ↔ x = some a := by
  cases x <;> simp [require]

/-- A part of a definition that is asked for is there. -/
theorem DefinitionError.locate_require_eq_ok_iff {α : Type} {id : Option Int64}
    {place : DefinitionPlace} {fault : DefinitionFault} {x : Option α} {a : α} :
    locate id place (fault.require x) = .ok a ↔ x = some a := by
  rw [locate_eq_ok_iff, DefinitionFault.require_eq_ok_iff]

theorem DefinitionError.locate_eq_error_iff {α : Type} {id : Option Int64}
    {place : DefinitionPlace} {x : Except DefinitionFault α} {e : DefinitionError} :
    locate id place x = .error e ↔ ∃ fault, x = .error fault ∧ e = ⟨id, place, fault⟩ := by
  cases x <;> simp [locate, eq_comm]

theorem DefinitionFault.require_eq_error_iff {α : Type} {fault e : DefinitionFault}
    {x : Option α} : fault.require x = .error e ↔ x = none ∧ e = fault := by
  cases x <;> simp [require, eq_comm]

/-! ## Members -/

namespace Json

theorem eq_string_of_asText? {v : Json} {s : String} (h : v.asText? = some s) :
    v = .string s := by
  cases v <;> cases h
  rfl

/-- A member that is asked for as a text is a string. -/
theorem bind_asText?_eq_some_iff {x : Option Json} {s : String} :
    x.bind asText? = some s ↔ x = some (.string s) := by
  rw [Option.bind_eq_some_iff]
  constructor
  · rintro ⟨v, rfl, text⟩
    rw [eq_string_of_asText? text]
  · rintro rfl
    exact ⟨_, rfl, rfl⟩

/-- A member that is asked for as a list is an array. -/
theorem bind_asItems?_eq_some_iff {x : Option Json} {items : List Json} :
    x.bind asItems? = some items ↔ x = some (.array items) := by
  rw [Option.bind_eq_some_iff]
  constructor
  · rintro ⟨v, rfl, listed⟩
    cases v <;> cases listed
    rfl
  · rintro rfl
    exact ⟨_, rfl, rfl⟩

/-! ## Children -/

/-- The definition of a child. -/
def child? (v : Json) (i : Nat) : Option Json :=
  ((v.get? "children").bind asItems?).bind (·[i]?)

theorem child?_eq_some_iff {v w : Json} {i : Nat} :
    v.child? i = some w ↔
      ∃ items, v.get? "children" = some (.array items) ∧ items[i]? = some w := by
  simp only [child?, Option.bind_eq_some_iff (x := Option.bind _ _), bind_asItems?_eq_some_iff]

theorem sizeOf_lt_of_child? {v w : Json} {i : Nat} (h : v.child? i = some w) :
    sizeOf w < sizeOf v := by
  obtain ⟨items, there, item⟩ := child?_eq_some_iff.1 h
  cases v with
  | object members =>
    have member := List.sizeOf_lt_of_mem (Dictionary.mem_of_lookup_eq_some there)
    have inside := List.sizeOf_lt_of_mem (List.mem_of_getElem? item)
    simp only [Prod.mk.sizeOf_spec, Json.array.sizeOf_spec] at member
    simp only [Json.object.sizeOf_spec]
    omega
  | _ => cases there

/-- What holds of a definition if it holds of all of its children holds of every definition. -/
theorem induction_on_children {P : Json → Prop}
    (step : ∀ v : Json, (∀ i w, v.child? i = some w → P w) → P v) (v : Json) : P v :=
  step v fun _ w _ => induction_on_children step w
termination_by sizeOf v
decreasing_by exact sizeOf_lt_of_child? ‹_›

end Json

/-! ## Definitions of conditions -/

/-- The type of a definition is what its member tells. -/
theorem NodeType.ofJson_of_get? {v : Json} {name : String}
    (there : v.get? "type" = some (.string name)) : ofJson v = ofName name := by
  rw [ofJson, there]
  rfl

/-- The definition of a condition is checked once its members are found. -/
theorem Condition.ofJson_of_get? {v literal : Json} {name spelling : String} {op : Operator}
    (variableThere : v.get? "variable" = some (.string name))
    (operatorThere : v.get? "operator" = some (.string spelling))
    (known : Operator.ofName? spelling = some op) (literalThere : v.get? "value" = some literal) :
    ofJson v = (make name op (Value.ofJson literal)).mapError .node := by
  simp only [ofJson, variableThere, operatorThere, literalThere, Option.bind_some, Json.asText?,
    DefinitionFault.require, bind, Except.bind, known]

/-- A condition on a variable with a name is refused for its literal only. -/
theorem Condition.exists_fault_of_make {name : String} {op : Operator} {literal : Value}
    {fault : NodeFault} (named : name ≠ "") (h : make name op literal = .error fault) :
    ∃ refusal, op.fault? literal = some refusal ∧ fault = .literal refusal := by
  unfold make at h
  rw [dif_neg named] at h
  split at h
  · rename_i refusal refused
    exact ⟨refusal, refused, (Except.error.inj h).symm⟩
  · cases h

/-- A condition that is made has the parts that it is made from. -/
theorem Condition.parts_of_make {name : String} {op : Operator} {literal : Value} {c : Condition}
    (h : make name op literal = .ok c) :
    c.variableName = name ∧ c.operator = op ∧ c.literal = literal := by
  unfold make at h
  split at h
  · cases h
  · split at h
    · cases h
    · obtain rfl := Except.ok.inj h
      exact ⟨rfl, rfl, rfl⟩

/-- A condition can be made from its own parts. -/
theorem Condition.make_eq_ok (c : Condition) :
    make c.variableName c.operator c.literal = .ok c := by
  unfold make
  rw [dif_neg c.named]
  split
  · rename_i fault refused
    rw [c.usable] at refused
    cases refused
  · rfl

/-! ## Definitions of trees -/

theorem NodeType.ofName_connective (connective : Connective) :
    ofName connective.name = .ok (.junction connective) := by
  cases connective <;> rfl

/-- The type that is read is told by a member. -/
theorem NodeType.get?_of_ofJson {v : Json} {type : NodeType} (h : ofJson v = .ok type) :
    ∃ name, v.get? "type" = some (.string name) ∧ ofName name = .ok type := by
  obtain ⟨name, there, named⟩ := bind_eq_ok_iff.1 h
  exact ⟨name, Json.bind_asText?_eq_some_iff.1 (DefinitionFault.require_eq_ok_iff.1 there), named⟩

theorem NodeType.ofName_eq_condition_iff {name : String} :
    ofName name = .ok .condition ↔ name = "condition" := by
  unfold ofName
  split_ifs <;> simp [*]

theorem NodeType.ofName_eq_junction_iff {name : String} {k : Connective} :
    ofName name = .ok (.junction k) ↔ name = k.name := by
  unfold ofName
  cases k <;> split_ifs <;> simp [*, Connective.name]

/-- A definition is read as a condition if its member says so. -/
theorem NodeType.ofJson_eq_condition_iff {v : Json} :
    ofJson v = .ok .condition ↔ v.get? "type" = some (.string "condition") := by
  constructor
  · intro h
    obtain ⟨name, there, named⟩ := get?_of_ofJson h
    rwa [ofName_eq_condition_iff.1 named] at there
  · exact ofJson_of_get?

/-- A definition is read as a node with children if its member names the connective. -/
theorem NodeType.ofJson_eq_junction_iff {v : Json} {k : Connective} :
    ofJson v = .ok (.junction k) ↔ v.get? "type" = some (.string k.name) := by
  constructor
  · intro h
    obtain ⟨name, there, named⟩ := get?_of_ofJson h
    rwa [ofName_eq_junction_iff.1 named] at there
  · intro there
    rw [ofJson_of_get? there, ofName_connective]

/-- Only objects have a type. -/
theorem NodeType.exists_members_of_ofJson {v : Json} {type : NodeType} (h : ofJson v = .ok type) :
    ∃ members, v = .object members := by
  cases v with
  | object members => exact ⟨members, rfl⟩
  | _ => cases h

theorem Children.ofList?_toList (cs : Children) : ofList? cs.toList = some cs := by
  induction cs using toList.induct with
  | case1 n => rfl
  | case2 n rest ih =>
    rw [toList, ofList?, ih]
    rfl

namespace Node

/-! ### Children -/

theorem exists_children_of_join {connective : Connective} {ns : List Node} {n : Node}
    (h : join connective ns = .ok n) : ∃ cs, cs.toList = ns ∧ n = .junction connective cs := by
  unfold join at h
  split at h
  · cases h
  · rename_i cs listed
    exact ⟨cs, Children.toList_of_ofList? listed, (Except.ok.inj h).symm⟩

theorem join_toList (connective : Connective) (cs : Children) :
    join connective cs.toList = .ok (.junction connective cs) := by
  rw [join, cs.ofList?_toList]

/-- Only an empty list of children cannot be joined. -/
theorem join_eq_error_iff {connective : Connective} {ns : List Node} {fault : NodeFault} :
    join connective ns = .error fault ↔ ns = [] ∧ fault = .noChildren connective.name := by
  cases ns <;> simp [join, Children.ofList?, eq_comm]

variable {rule : Int64} {p : Position}

theorem ofMembers_eq (connective : Connective) (members : List (String × Json)) :
    ofMembers rule p connective members =
      DefinitionError.locate (some rule) (.node p)
        ((DefinitionFault.missingChildren connective).require
          ((members.lookup "children").bind Json.asItems?)) >>= ofItems rule p 0 := by
  induction members with
  | nil => rw [ofMembers]; rfl
  | cons member members ih =>
    obtain ⟨key, v⟩ := member
    unfold ofMembers
    rw [Dictionary.lookup_cons_eq_if]
    by_cases same : key = "children"
    · rw [if_pos same, if_pos same.symm]
      cases v <;> rfl
    · rw [if_neg same, if_neg (Ne.symm same), ih]

/-- The children that are read are as many as their definitions, each read from the definition at
the same index. -/
theorem ofItems_eq_ok_iff {index : Nat} {items : List Json} {ns : List Node} :
    ofItems rule p index items = .ok ns ↔ items.length = ns.length ∧
      ∀ i v n, items[i]? = some v → ns[i]? = some n →
        ofJson rule (p.child (index + i)) v = .ok n := by
  induction items generalizing index ns with
  | nil => cases ns <;> simp [ofItems]
  | cons v vs ih =>
    have shift (i : Nat) : index + (i + 1) = index + 1 + i := by omega
    rw [ofItems]
    constructor
    · intro h
      obtain ⟨n, read, h⟩ := bind_eq_ok_iff.1 h
      obtain ⟨rest, later, same⟩ := bind_eq_ok_iff.1 h
      obtain rfl := Except.ok.inj same
      obtain ⟨length, each⟩ := ih.1 later
      refine ⟨congrArg (· + 1) length, fun i w m item child => ?_⟩
      cases i with
      | zero =>
        obtain rfl := Option.some.inj item
        obtain rfl := Option.some.inj child
        exact read
      | succ i =>
        rw [shift]
        exact each i w m item child
    · rintro ⟨length, each⟩
      cases ns with
      | nil => cases length
      | cons n ns =>
        have later : ofItems rule p (index + 1) vs = .ok ns :=
          ih.2 ⟨Nat.succ.inj length, fun i w m item child => by
            rw [← shift]
            exact each (i + 1) w m item child⟩
        exact bind_eq_ok_iff.2 ⟨n, each 0 v n rfl rfl, bind_eq_ok_iff.2 ⟨ns, later, rfl⟩⟩

/-- A child that is read has its definition at the same index. -/
theorem exists_item_of_getElem? {index : Nat} {items : List Json} {ns : List Node}
    (h : ofItems rule p index items = .ok ns) {i : Nat} {n : Node} (found : ns[i]? = some n) :
    ∃ v, items[i]? = some v ∧ ofJson rule (p.child (index + i)) v = .ok n := by
  obtain ⟨length, each⟩ := ofItems_eq_ok_iff.1 h
  obtain ⟨inside, -⟩ := List.getElem?_eq_some_iff.1 found
  have item := List.getElem?_eq_getElem (length ▸ inside : i < items.length)
  exact ⟨_, item, each i _ n item found⟩

/-! ### One definition -/

variable {v : Json}

theorem ofJson_of_untyped {fault : DefinitionFault} (h : NodeType.ofJson v = .error fault) :
    ofJson rule p v = .error ⟨some rule, .node p, fault⟩ := by
  cases v with
  | object members => rw [ofJson, h]; rfl
  | _ =>
    cases h
    rfl

theorem ofJson_of_condition (h : NodeType.ofJson v = .ok .condition) :
    ofJson rule p v =
      DefinitionError.locate (some rule) (.node p) (Condition.ofJson v) >>= fun c =>
        .ok (leaf c) := by
  cases v with
  | object members => rw [ofJson, h]; rfl
  | _ => cases h

theorem ofJson_of_junction {connective : Connective}
    (h : NodeType.ofJson v = .ok (.junction connective)) :
    ofJson rule p v =
      (DefinitionError.locate (some rule) (.node p)
        ((DefinitionFault.missingChildren connective).require
          ((v.get? "children").bind Json.asItems?)) >>= ofItems rule p 0) >>= fun children =>
        DefinitionError.locate (some rule) (.node p)
          ((join connective children).mapError .node) := by
  cases v with
  | object members =>
    rw [ofJson, h, Json.get?, ← ofMembers_eq]
    rfl
  | _ => cases h

/-- A tree that is read is a leaf with a condition, or it joins children that are read. -/
theorem ofJson_eq_ok_iff {n : Node} :
    ofJson rule p v = .ok n ↔
      (v.get? "type" = some (.string "condition") ∧
        ∃ c, Condition.ofJson v = .ok c ∧ n = .leaf c) ∨
      ∃ k items cs, v.get? "type" = some (.string (Connective.name k)) ∧
        v.get? "children" = some (.array items) ∧
        ofItems rule p 0 items = .ok (Children.toList cs) ∧ n = .junction k cs := by
  constructor
  · intro h
    cases typed : NodeType.ofJson v with
    | error fault =>
      rw [ofJson_of_untyped typed] at h
      cases h
    | ok type =>
      cases type with
      | condition =>
        rw [ofJson_of_condition typed] at h
        obtain ⟨c, defined, leafIs⟩ := bind_eq_ok_iff.1 h
        exact .inl ⟨NodeType.ofJson_eq_condition_iff.1 typed, c,
          DefinitionError.locate_eq_ok_iff.1 defined, (Except.ok.inj leafIs).symm⟩
      | junction k =>
        rw [ofJson_of_junction typed] at h
        obtain ⟨children, read, joined⟩ := bind_eq_ok_iff.1 h
        obtain ⟨items, listed, read⟩ := bind_eq_ok_iff.1 read
        obtain ⟨cs, rfl, rfl⟩ := exists_children_of_join
          (mapError_eq_ok_iff.1 (DefinitionError.locate_eq_ok_iff.1 joined))
        exact .inr ⟨k, items, cs, NodeType.ofJson_eq_junction_iff.1 typed,
          Json.bind_asItems?_eq_some_iff.1 (DefinitionError.locate_require_eq_ok_iff.1 listed),
          read, rfl⟩
  · rintro (⟨type, c, defined, rfl⟩ | ⟨k, items, cs, type, listed, read, rfl⟩)
    · rw [ofJson_of_condition (NodeType.ofJson_eq_condition_iff.2 type), defined]
      rfl
    · rw [ofJson_of_junction (NodeType.ofJson_eq_junction_iff.2 type), listed]
      refine bind_eq_ok_iff.2 ⟨_, read, ?_⟩
      rw [join_toList]
      rfl

/-- What is read does not depend on the rule and on where the definition stands. -/
theorem ofJson_eq_ok_of_ofJson {n : Node} (h : ofJson rule p v = .ok n) (rule' : Int64)
    (q : Position) : ofJson rule' q v = .ok n := by
  induction v using Json.induction_on_children generalizing p q n with
  | step v ih =>
    refine ofJson_eq_ok_iff.2 ?_
    rcases ofJson_eq_ok_iff.1 h with leaf | ⟨k, items, cs, type, listed, read, rfl⟩
    · exact .inl leaf
    · obtain ⟨length, each⟩ := ofItems_eq_ok_iff.1 read
      refine .inr ⟨k, items, cs, type, listed, ofItems_eq_ok_iff.2 ⟨length, ?_⟩, rfl⟩
      intro i w m item child
      exact ih i w (Json.child?_eq_some_iff.2 ⟨items, listed, item⟩) (each i w m item child) _

end Node

/-! ## Definitions of rules -/

namespace Rule

variable {v : Json} {title name : String} {active : Bool}

theorem textOf_eq_ok_iff {field text : String} :
    textOf v field = .ok text ↔ v.get? field = some (.string text) := by
  rw [textOf, DefinitionFault.require_eq_ok_iff, Json.bind_asText?_eq_some_iff]

/-- The name of a rule is a member of its definition, and it is not empty. -/
theorem nameOf_eq_ok_iff :
    nameOf v = .ok name ↔ v.get? "name" = some (.string name) ∧ name ≠ "" := by
  rw [nameOf, bind_eq_ok_iff]
  constructor
  · rintro ⟨text, there, named⟩
    split at named
    · cases named
    · rename_i nonempty
      obtain rfl := Except.ok.inj named
      exact ⟨textOf_eq_ok_iff.1 there, nonempty⟩
  · rintro ⟨there, nonempty⟩
    exact ⟨name, textOf_eq_ok_iff.2 there, if_neg nonempty⟩

/-- A rule that does not say whether it is active is so. -/
theorem activeOf_eq_ok_iff : activeOf v = .ok active ↔
    v.get? "active" = some (.bool active) ∨ v.get? "active" = none ∧ active = true := by
  rw [activeOf]
  cases v.get? "active" with
  | none => simp [eq_comm]
  | some w => cases w <;> simp

/-- Once the other parts of a definition are read, its number and its tree decide. -/
theorem ofJson_of_parts {definition : Json} (nameRead : nameOf v = .ok name)
    (titleRead : textOf v "title" = .ok title) (activeRead : activeOf v = .ok active)
    (there : v.get? "ast" = some definition) :
    ofJson v =
      DefinitionError.locate none (.field "id")
        (DefinitionFault.missingId.require ((v.get? "id").bind Json.asInt64?)) >>= fun id =>
        Node.ofJson id .root definition >>= fun tree => .ok ⟨id, name, title, active, tree⟩ := by
  rw [ofJson, nameRead, titleRead, activeRead, there]
  rfl

/-- A rule is read if each of its parts is read of a member of its definition. -/
theorem ofJson_eq_ok_iff {r : Rule} :
    ofJson v = .ok r ↔ (v.get? "id").bind Json.asInt64? = some r.id ∧ nameOf v = .ok r.name ∧
      textOf v "title" = .ok r.title ∧ activeOf v = .ok r.active ∧
      ∃ definition, v.get? "ast" = some definition ∧
        Node.ofJson r.id .root definition = .ok r.tree := by
  constructor
  · intro h
    obtain ⟨id, number, h⟩ := bind_eq_ok_iff.1 h
    obtain ⟨name, nameRead, h⟩ := bind_eq_ok_iff.1 h
    obtain ⟨title, titleRead, h⟩ := bind_eq_ok_iff.1 h
    obtain ⟨active, activeRead, h⟩ := bind_eq_ok_iff.1 h
    obtain ⟨definition, there, h⟩ := bind_eq_ok_iff.1 h
    obtain ⟨tree, treeRead, same⟩ := bind_eq_ok_iff.1 h
    obtain rfl := Except.ok.inj same
    rw [DefinitionError.locate_require_eq_ok_iff] at number there
    rw [DefinitionError.locate_eq_ok_iff] at nameRead titleRead activeRead
    exact ⟨number, nameRead, titleRead, activeRead, definition, there, treeRead⟩
  · rintro ⟨number, nameRead, titleRead, activeRead, definition, there, treeRead⟩
    rw [ofJson_of_parts nameRead titleRead activeRead there, number]
    exact bind_eq_ok_iff.2 ⟨r.id, rfl, bind_eq_ok_iff.2 ⟨r.tree, treeRead, rfl⟩⟩

/-- A rule that has been read has the name in its definition, which is not empty. -/
theorem name_of_ofJson {r : Rule} (h : ofJson v = .ok r) :
    v.get? "name" = some (.string r.name) ∧ r.name ≠ "" := by
  obtain ⟨-, nameRead, -⟩ := ofJson_eq_ok_iff.1 h
  exact nameOf_eq_ok_iff.1 nameRead

/-- The tree of a rule is read of a member of its definition. -/
theorem exists_tree_of_ofJson {r : Rule} (h : ofJson v = .ok r) :
    ∃ definition, v.get? "ast" = some definition ∧
      Node.ofJson r.id .root definition = .ok r.tree := by
  obtain ⟨-, -, -, -, tree⟩ := ofJson_eq_ok_iff.1 h
  exact tree

end Rule

end RuleActivation
