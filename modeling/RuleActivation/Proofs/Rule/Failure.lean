import RuleActivation.Proofs.Rule.Leaves
import RuleActivation.Proofs.Rule.Reading

/-!
# Where a definition fails

The reader of trees checks every definition by itself and goes from there to the definitions of its
children, from left to right. If it fails, then because the check of one definition does, and the
position that it tells leads to this definition.

## Main definitions

* `Json.descend?`: the definition that a list of indices leads to
* `Json.IsOperand`, `Json.LeadsTo`: the same where only the children that are read count
* `Node.checkRoot`: the check of a definition by itself
* `Node.FirstFailing`: the first child that cannot be read
* `Node.ReadsBefore`: whether all that stands before a definition can be read

## Main results

* `Node.exists_of_ofJson_eq_error`: a definition that fails, or a first one of its children does
* `Node.ofJson_of_checkRoot`, `Node.FirstFailing.ofJson_eq_error`: both make the reader fail
* `Node.ofJson_eq_error_iff_exists_checkRoot`: the definition that fails
-/

namespace RuleActivation

namespace Json

/-- The definition that a list of indices leads to. -/
def descend? : Json → List Nat → Option Json
  | v, [] => some v
  | v, i :: path => (v.child? i).bind (·.descend? path)

theorem descend?_cons_of_child? {v w : Json} {i : Nat} (h : v.child? i = some w)
    (path : List Nat) : v.descend? (i :: path) = w.descend? path := by
  rw [descend?, h, Option.bind_some]

/-- The definition of a child of a node that joins its children. A condition has no children, even
if its definition lists some. -/
def IsOperand (v : Json) (i : Nat) (w : Json) : Prop :=
  (∃ k : Connective, v.get? "type" = some (.string k.name)) ∧ v.child? i = some w

/-- A list of indices leads from a definition to another one, from nodes to children that they
join. -/
inductive LeadsTo : Json → List Nat → Json → Prop where
  | root (v : Json) : LeadsTo v [] v
  | child {v w u : Json} {i : Nat} {path : List Nat} (operand : v.IsOperand i w)
      (rest : LeadsTo w path u) : LeadsTo v (i :: path) u

theorem leadsTo_nil_iff {v w : Json} : v.LeadsTo [] w ↔ w = v := by
  constructor
  · intro h
    cases h
    rfl
  · rintro rfl
    exact .root w

theorem leadsTo_cons_iff {v u : Json} {i : Nat} {path : List Nat} :
    v.LeadsTo (i :: path) u ↔ ∃ w, v.IsOperand i w ∧ w.LeadsTo path u := by
  constructor
  · intro h
    cases h with
    | child operand rest => exact ⟨_, operand, rest⟩
  · rintro ⟨w, operand, rest⟩
    exact .child operand rest

/-- The children that are read are among all that are listed. -/
theorem LeadsTo.descend?_eq_some {v w : Json} {path : List Nat} (h : v.LeadsTo path w) :
    v.descend? path = some w := by
  induction h with
  | root v => rfl
  | child operand _ ih => rw [descend?_cons_of_child? operand.2, ih]

/-- What passes on to the children passes on to what is below. -/
theorem of_descend? {P : Json → Prop} (passes : ∀ v i w, P v → v.child? i = some w → P w)
    {path : List Nat} {v w : Json} (start : P v) (h : v.descend? path = some w) : P w := by
  induction path generalizing v with
  | nil => exact Option.some.inj h ▸ start
  | cons i path ih =>
    obtain ⟨child, there, below⟩ := Option.bind_eq_some_iff.1 h
    exact ih (passes v i child start there) below

end Json

namespace Node

variable {rule : Int64} {p : Position} {e : DefinitionError}

/-- If the children cannot be read, one of them cannot, and those before it can. -/
theorem exists_item_of_ofItems {index : Nat} {items : List Json}
    (h : ofItems rule p index items = .error e) :
    ∃ i v, items[i]? = some v ∧ ofJson rule (p.child (index + i)) v = .error e ∧
      ∀ j < i, ∀ w, items[j]? = some w → ∃ n, ofJson rule (p.child (index + j)) w = .ok n := by
  induction items generalizing index with
  | nil => cases h
  | cons v vs ih =>
    rw [ofItems] at h
    rcases bind_eq_error_iff.1 h with first | ⟨n, read, later⟩
    · exact ⟨0, v, rfl, first, fun j less => absurd less j.not_lt_zero⟩
    · rcases bind_eq_error_iff.1 later with others | ⟨ns, -, returned⟩
      · obtain ⟨i, w, item, bad, before⟩ := ih others
        have shift (j : Nat) : index + (j + 1) = index + 1 + j := by omega
        refine ⟨i + 1, w, item, by rwa [shift], fun j less u there => ?_⟩
        cases j with
        | zero =>
          obtain rfl := Option.some.inj there
          exact ⟨n, read⟩
        | succ j =>
          rw [shift]
          exact before j (Nat.lt_of_succ_lt_succ less) u there
      · cases returned

/-- Children cannot be read if one of them cannot and those before it can. -/
theorem ofItems_eq_error {index i : Nat} {items : List Json} {v : Json}
    (item : items[i]? = some v) (bad : ofJson rule (p.child (index + i)) v = .error e)
    (before : ∀ j < i, ∀ w, items[j]? = some w → ∃ n, ofJson rule (p.child (index + j)) w = .ok n) :
    ofItems rule p index items = .error e := by
  induction items generalizing index i with
  | nil => cases item
  | cons w ws ih =>
    rw [ofItems]
    cases i with
    | zero =>
      obtain rfl := Option.some.inj item
      exact bind_eq_error_iff.2 (.inl bad)
    | succ i =>
      have shift (j : Nat) : index + (j + 1) = index + 1 + j := by omega
      obtain ⟨n, read⟩ := before 0 (Nat.succ_pos i) w rfl
      refine bind_eq_error_iff.2 (.inr ⟨n, read, bind_eq_error_iff.2 (.inl ?_)⟩)
      refine ih item (by rwa [← shift]) fun j less u there => ?_
      rw [← shift]
      exact before (j + 1) (Nat.succ_lt_succ less) u there

theorem ofItems_eq_ok_nil_iff {index : Nat} {items : List Json} :
    ofItems rule p index items = .ok [] ↔ items = [] := by
  constructor
  · intro h
    cases items with
    | nil => rfl
    | cons v vs =>
      rw [ofItems] at h
      obtain ⟨n, -, h⟩ := bind_eq_ok_iff.1 h
      obtain ⟨ns, -, same⟩ := bind_eq_ok_iff.1 h
      cases same
  · rintro rfl
    rw [ofItems]

/-! ## One definition -/

section

variable {v : Json}

/-- Checks a definition by itself, whatever its children are. -/
def checkRoot (v : Json) : Except DefinitionFault Unit := do
  match ← NodeType.ofJson v with
  | .condition =>
    let _ ← Condition.ofJson v
  | .junction connective =>
    let children ← (DefinitionFault.missingChildren connective).require
      ((v.get? "children").bind Json.asItems?)
    if children.isEmpty then .error (.node (.noChildren connective.name))

theorem checkRoot_of_untyped {fault : DefinitionFault} (h : NodeType.ofJson v = .error fault) :
    checkRoot v = .error fault := by
  rw [checkRoot, h]
  rfl

theorem checkRoot_of_condition (h : NodeType.ofJson v = .ok .condition) :
    checkRoot v = Condition.ofJson v >>= fun _ => .ok () := by
  rw [checkRoot, h]
  rfl

theorem checkRoot_of_junction {connective : Connective}
    (h : NodeType.ofJson v = .ok (.junction connective)) :
    checkRoot v = (DefinitionFault.missingChildren connective).require
      ((v.get? "children").bind Json.asItems?) >>= fun children =>
        if children.isEmpty then .error (.node (.noChildren connective.name)) else .ok () := by
  rw [checkRoot, h]
  rfl

/-! ## Trees -/

/-- The first child of a definition that cannot be read. -/
structure FirstFailing (rule : Int64) (p : Position) (v : Json) (i : Nat) (w : Json)
    (e : DefinitionError) : Prop where
  operand : v.IsOperand i w
  bad : ofJson rule (p.child i) w = .error e
  before : ∀ j < i, ∀ u, v.child? j = some u → ∃ n, ofJson rule (p.child j) u = .ok n

theorem child?_of_require {k : Connective} {items : List Json}
    (listed : (DefinitionFault.missingChildren k).require
      ((v.get? "children").bind Json.asItems?) = .ok items) (i : Nat) : v.child? i = items[i]? := by
  rw [Json.child?, DefinitionFault.require_eq_ok_iff.1 listed, Option.bind_some]

/-- A definition that fails by itself cannot be read, wherever it stands. -/
theorem ofJson_of_checkRoot {fault : DefinitionFault} (wrong : checkRoot v = .error fault) :
    ofJson rule p v = .error ⟨some rule, .node p, fault⟩ := by
  cases typed : NodeType.ofJson v with
  | error fault' =>
    rw [checkRoot_of_untyped typed] at wrong
    rw [ofJson_of_untyped typed, Except.error.inj wrong]
  | ok type =>
    cases type with
    | condition =>
      rw [checkRoot_of_condition typed] at wrong
      rw [ofJson_of_condition typed]
      rcases bind_eq_error_iff.1 wrong with bad | ⟨c, -, returned⟩
      · exact bind_eq_error_iff.2 (.inl (DefinitionError.locate_eq_error_iff.2 ⟨fault, bad, rfl⟩))
      · cases returned
    | junction k =>
      rw [checkRoot_of_junction typed] at wrong
      rw [ofJson_of_junction typed]
      rcases bind_eq_error_iff.1 wrong with unlisted | ⟨items, listed, empty⟩
      · exact bind_eq_error_iff.2 (.inl (bind_eq_error_iff.2
          (.inl (DefinitionError.locate_eq_error_iff.2 ⟨fault, unlisted, rfl⟩))))
      · cases items with
        | nil =>
          obtain rfl := Except.error.inj empty
          rw [listed]
          rfl
        | cons w ws => cases empty

/-- The first child that cannot be read tells why the definition cannot be read. -/
theorem FirstFailing.ofJson_eq_error {i : Nat} {w : Json} (first : FirstFailing rule p v i w e) :
    ofJson rule p v = .error e := by
  obtain ⟨k, joins⟩ := first.operand.1
  obtain ⟨items, there, item⟩ := Json.child?_eq_some_iff.1 first.operand.2
  have listed : (DefinitionFault.missingChildren k).require
      ((v.get? "children").bind Json.asItems?) = .ok items :=
    DefinitionFault.require_eq_ok_iff.2 (Json.bind_asItems?_eq_some_iff.2 there)
  have bad : ofItems rule p 0 items = .error e :=
    ofItems_eq_error item (by simpa using first.bad) fun j less u there => by
      simpa using first.before j less u ((child?_of_require listed j).trans there)
  rw [ofJson_of_junction (NodeType.ofJson_eq_junction_iff.2 joins), listed]
  exact bind_eq_error_iff.2 (.inl bad)

/-- If a node with children fails, it has none, or a first one fails. -/
theorem exists_of_junction_eq_error {k : Connective}
    (typed : NodeType.ofJson v = .ok (.junction k)) (h : ofJson rule p v = .error e) :
    (∃ fault, checkRoot v = .error fault ∧ e = ⟨some rule, .node p, fault⟩) ∨
      ∃ i w, FirstFailing rule p v i w e := by
  rw [ofJson_of_junction typed] at h
  rw [checkRoot_of_junction typed]
  rcases bind_eq_error_iff.1 h with unread | ⟨children, read, unjoined⟩
  · rcases bind_eq_error_iff.1 unread with unlisted | ⟨items, listed, bad⟩
    · obtain ⟨fault, wrong, rfl⟩ := DefinitionError.locate_eq_error_iff.1 unlisted
      exact .inl ⟨fault, bind_eq_error_iff.2 (.inl wrong), rfl⟩
    · have child := child?_of_require (DefinitionError.locate_eq_ok_iff.1 listed)
      obtain ⟨i, w, item, bad, before⟩ := exists_item_of_ofItems bad
      simp only [Nat.zero_add] at bad before
      exact .inr ⟨i, w, ⟨⟨k, NodeType.ofJson_eq_junction_iff.1 typed⟩, (child i).trans item⟩, bad,
        fun j less u there => before j less u ((child j).symm.trans there)⟩
  · obtain ⟨items, listed, read⟩ := bind_eq_ok_iff.1 read
    obtain ⟨fault, wrong, rfl⟩ := DefinitionError.locate_eq_error_iff.1 unjoined
    obtain ⟨_, empty, rfl⟩ := mapError_eq_error_iff.1 wrong
    obtain ⟨rfl, rfl⟩ := join_eq_error_iff.1 empty
    obtain rfl := ofItems_eq_ok_nil_iff.1 read
    exact .inl ⟨_, bind_eq_error_iff.2
      (.inr ⟨[], DefinitionError.locate_eq_ok_iff.1 listed, rfl⟩), rfl⟩

/-- If a definition fails, it does so by itself, or a first one of its children fails. -/
theorem exists_of_ofJson_eq_error (h : ofJson rule p v = .error e) :
    (∃ fault, checkRoot v = .error fault ∧ e = ⟨some rule, .node p, fault⟩) ∨
      ∃ i w, FirstFailing rule p v i w e := by
  cases typed : NodeType.ofJson v with
  | error fault =>
    rw [ofJson_of_untyped typed] at h
    exact .inl ⟨fault, checkRoot_of_untyped typed, (Except.error.inj h).symm⟩
  | ok type =>
    cases type with
    | condition =>
      rw [ofJson_of_condition typed] at h
      rcases bind_eq_error_iff.1 h with bad | ⟨c, -, returned⟩
      · obtain ⟨fault, wrong, rfl⟩ := DefinitionError.locate_eq_error_iff.1 bad
        rw [checkRoot_of_condition typed]
        exact .inl ⟨fault, bind_eq_error_iff.2 (.inl wrong), rfl⟩
      · cases returned
    | junction k => exact exists_of_junction_eq_error typed h

/-! ## The way to a definition that fails -/

variable {w : Json} {i : Nat} {path : List Nat}

/-- On the way from a definition to what is below it, all children to the left can be read, wherever
they stand. -/
def ReadsBefore (rule : Int64) (v : Json) (path : List Nat) : Prop :=
  ∀ above i below u, path = above ++ i :: below → v.LeadsTo above u →
    ∀ j < i, ∀ w, u.child? j = some w → ∀ p, ∃ n, ofJson rule p w = .ok n

theorem readsBefore_nil : ReadsBefore rule v [] := by
  intro above i below u way
  simp at way

theorem readsBefore_cons_iff (operand : v.IsOperand i w) :
    ReadsBefore rule v (i :: path) ↔
      (∀ j < i, ∀ u, v.child? j = some u → ∀ p, ∃ n, ofJson rule p u = .ok n) ∧
        ReadsBefore rule w path := by
  constructor
  · intro h
    refine ⟨h [] i path v rfl (.root v), fun above j below u way leads => ?_⟩
    exact h (i :: above) j below u (congrArg (i :: ·) way) (.child operand leads)
  · rintro ⟨first, others⟩ above j below u way leads
    cases above with
    | nil =>
      obtain ⟨rfl, rfl⟩ := List.cons.inj way
      rwa [Json.leadsTo_nil_iff.1 leads]
    | cons i' above =>
      obtain ⟨rfl, rest⟩ := List.cons.inj way
      obtain ⟨w', operand', leads⟩ := Json.leadsTo_cons_iff.1 leads
      obtain rfl := Option.some.inj (operand.2.symm.trans operand'.2)
      exact others above j below u rest leads

/-- A definition cannot be read if and only if indices lead to one that fails by itself and all that
stands before can be read. The position of this one is told, and what is wrong with it. -/
theorem ofJson_eq_error_iff_exists_checkRoot :
    ofJson rule p v = .error e ↔
      ∃ path w fault, v.LeadsTo path w ∧ ReadsBefore rule v path ∧ checkRoot w = .error fault ∧
        e = ⟨some rule, .node ⟨p.indices ++ path⟩, fault⟩ := by
  constructor
  · intro h
    induction v using Json.induction_on_children generalizing p with
    | step v ih =>
      rcases exists_of_ofJson_eq_error h with ⟨fault, wrong, rfl⟩ | ⟨i, w, first⟩
      · exact ⟨[], v, fault, .root v, readsBefore_nil, wrong, by rw [List.append_nil]⟩
      · obtain ⟨path, culprit, fault, leads, before, wrong, rfl⟩ := ih i w first.operand.2 first.bad
        refine ⟨i :: path, culprit, fault, .child first.operand leads,
          (readsBefore_cons_iff first.operand).2 ⟨fun j less u there q => ?_, before⟩, wrong, ?_⟩
        · obtain ⟨n, read⟩ := first.before j less u there
          exact ⟨n, ofJson_eq_ok_of_ofJson read rule q⟩
        · rw [Position.indices_child_append]
  · rintro ⟨path, culprit, fault, leads, before, wrong, rfl⟩
    induction leads generalizing p with
    | root v => rw [ofJson_of_checkRoot wrong, List.append_nil]
    | @child v w u i path operand _ ih =>
      obtain ⟨first, others⟩ := (readsBefore_cons_iff operand).1 before
      have bad := @ih (p.child i) others wrong
      rw [Position.indices_child_append] at bad
      exact FirstFailing.ofJson_eq_error ⟨operand, bad, fun j less u there =>
        first j less u there (p.child j)⟩

end

end Node

end RuleActivation
