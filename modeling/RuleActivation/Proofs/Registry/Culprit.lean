import RuleActivation.Proofs.Registry.Building
import RuleActivation.Proofs.Rule.Grammar

/-!
# The first fault

The children of a definition are read from left to right, and rules in the order of their document.
What is told when this fails is therefore the first fault: the position leads to a definition that
fails by itself, and all that stands before it on the way can be read, as can all rules before. That
rules clash is noticed only when all of them have been read.

## Main results

* `Node.checkRoot_eq_error_iff`: the definitions that fail by themselves
* `Node.ofJson_eq_error_iff`: the definition that fails first
* `Registry.ofJson_eq_error_definition_iff`: the rule that fails first
* `Registry.ofJson_tells_first`: both
-/

namespace RuleActivation

/-! ## Trees -/

namespace Node

variable {rule : Int64} {p : Position} {v w : Json} {e : DefinitionError}

/-- A definition fails by itself if and only if its own position is told when it is read. -/
theorem checkRoot_eq_error_iff {fault : DefinitionFault} :
    checkRoot w = .error fault ↔ ofJson rule p w = .error ⟨some rule, .node p, fault⟩ := by
  refine ⟨ofJson_of_checkRoot, fun h => ?_⟩
  obtain ⟨path, culprit, fault, leads, -, wrong, same⟩ := ofJson_eq_error_iff_exists_checkRoot.1 h
  obtain ⟨-, place, rfl⟩ := DefinitionError.mk.inj same
  obtain rfl : path = [] :=
    List.self_eq_append_right.1 (congrArg Position.indices (DefinitionPlace.node.inj place))
  rwa [Json.leadsTo_nil_iff.1 leads] at wrong

/-- A definition cannot be read if and only if indices lead to one that fails by itself and all that
stands before can be read. The position of this one is told, and what is wrong with it. -/
theorem ofJson_eq_error_iff :
    ofJson rule p v = .error e ↔
      ∃ path w fault, v.LeadsTo path w ∧ ReadsBefore rule v path ∧
        (∀ q, ofJson rule q w = .error ⟨some rule, .node q, fault⟩) ∧
        e = ⟨some rule, .node ⟨p.indices ++ path⟩, fault⟩ := by
  have own (w : Json) (fault : DefinitionFault) : checkRoot w = .error fault ↔
      ∀ q, ofJson rule q w = .error ⟨some rule, .node q, fault⟩ :=
    ⟨fun wrong _ => checkRoot_eq_error_iff.1 wrong, fun h => checkRoot_eq_error_iff.2 (h p)⟩
  rw [ofJson_eq_error_iff_exists_checkRoot]
  simp only [own]

end Node

/-! ## Documents -/

namespace Registry

/-- The fault of a definition is told if and only if it is that of the first rule that cannot be
read. -/
theorem ofJson_eq_error_definition_iff {document : Json} {items : List Json}
    (found : document.get? "rules" = some (.array items)) {bad : DefinitionError} :
    ofJson document = .error (.definition bad) ↔ ∃ before item after,
      items = before ++ item :: after ∧ (∀ v ∈ before, ∃ r, Rule.ofJson v = .ok r) ∧
      Rule.ofJson item = .error bad := by
  rw [ofJson, bind_eq_error_iff, rulesOf_eq_error_iff found]
  constructor
  · rintro (⟨before, item, after, bad', split, good, wrong, same⟩ | ⟨rules, -, unmade⟩)
    · obtain rfl := RegistryError.definition.inj same
      exact ⟨before, item, after, split, good, wrong⟩
    · obtain ⟨before, r, after, -, -, -, clash⟩ := ofRules_eq_error_iff.1 unmade
      cases clash
  · rintro ⟨before, item, after, split, good, wrong⟩
    exact .inl ⟨before, item, after, bad, split, good, wrong, rfl⟩

/-- A document with a rule that cannot be read fails for the fault of a definition. -/
theorem exists_ofJson_eq_error_definition {document : Json} {items : List Json}
    (found : document.get? "rules" = some (.array items))
    (h : ∃ item ∈ items, ∃ bad, Rule.ofJson item = .error bad) :
    ∃ bad, ofJson document = .error (.definition bad) := by
  obtain ⟨item, mem, bad, wrong⟩ := h
  cases read : rulesOf document with
  | ok rules =>
    rw [rulesOf_of_get? found] at read
    obtain ⟨r, good⟩ := exists_mapM_eq_ok_iff.1 ⟨rules, read⟩ item mem
    rw [mapError_eq_ok_iff, wrong] at good
    cases good
  | error e =>
    obtain ⟨before, item, after, bad, split, good, wrong, -⟩ := (rulesOf_eq_error_iff found).1 read
    exact ⟨bad, (ofJson_eq_error_definition_iff found).2 ⟨before, item, after, split, good, wrong⟩⟩

/-- What is told of a definition or of a document that cannot be read is its first fault. The
position of a fault extends that of the definition by indices that lead to a definition which fails
by itself, wherever it stands, and for the same reason, while all that stands before it on the way
can be read. A document with a rule that cannot be read fails for the first such rule, whether or
not rules before it clash. -/
theorem ofJson_tells_first (rule : Int64) (p : Position) (v document : Json) :
    (∀ e, Node.ofJson rule p v = .error e ↔
      ∃ path w fault, v.LeadsTo path w ∧ Node.ReadsBefore rule v path ∧
        (∀ q, Node.ofJson rule q w = .error ⟨some rule, .node q, fault⟩) ∧
        e = ⟨some rule, .node ⟨p.indices ++ path⟩, fault⟩) ∧
    ∀ items, document.get? "rules" = some (.array items) →
      ((∃ item ∈ items, ∃ bad, Rule.ofJson item = .error bad) →
        ∃ bad, ofJson document = .error (.definition bad)) ∧
      ∀ bad, ofJson document = .error (.definition bad) ↔ ∃ before item after,
        items = before ++ item :: after ∧ (∀ v ∈ before, ∃ r, Rule.ofJson v = .ok r) ∧
        Rule.ofJson item = .error bad :=
  ⟨fun _ => Node.ofJson_eq_error_iff, fun _ found =>
    ⟨exists_ofJson_eq_error_definition found, fun _ => ofJson_eq_error_definition_iff found⟩⟩

/-- The definition of a rule with a given number and a given tree. -/
def ruleDefinition (id : Nat) (tree : Json) : Json :=
  .object [("id", .ofNat id), ("name", .string "a"), ("title", .string "t"), ("ast", tree)]

/-- A fault below the second of two children, and a document where it stands in a rule that comes
after two rules with the same number. -/
theorem ofJson_tells_first_nested :
    ∃ v w fault, Node.ofJson 9 ⟨[4]⟩ v = .error ⟨some 9, .node ⟨[4, 1, 1]⟩, fault⟩ ∧
      v.LeadsTo [1, 1] w ∧ Node.ReadsBefore 9 v [1, 1] ∧
      (∀ q, Node.ofJson 9 q w = .error ⟨some 9, .node q, fault⟩) ∧
      ∃ good r document, Rule.ofJson good = .ok r ∧ ofRules [r, r] = .error (.duplicateId 1) ∧
        document.get? "rules" = some (.array [good, good, ruleDefinition 2 v]) ∧
        ofJson document = .error (.definition ⟨some 2, .node ⟨[1, 1]⟩, fault⟩) := by
  let leaf := Node.conditionDefinition "x" []
  let bad : Json := .object [("type", .string "not")]
  let inner : Json := .object [("type", .string "and"), ("children", .array [leaf, bad])]
  let v : Json := .object [("type", .string "or"), ("children", .array [leaf, inner, bad])]
  let good := ruleDefinition 1 leaf
  let document : Json := .object [("rules", .array [good, good, ruleDefinition 2 v])]
  obtain ⟨fault, wrong, bad⟩ : ∃ fault,
      Node.ofJson 9 ⟨[4]⟩ v = .error ⟨some 9, .node ⟨[4, 1, 1]⟩, fault⟩ ∧
      Rule.ofJson (ruleDefinition 2 v) = .error ⟨some 2, .node ⟨[1, 1]⟩, fault⟩ := ⟨_, rfl, rfl⟩
  obtain ⟨r, read, clash⟩ :
      ∃ r, Rule.ofJson good = .ok r ∧ ofRules [r, r] = .error (.duplicateId 1) := ⟨_, rfl, rfl⟩
  obtain ⟨trees, documents⟩ := ofJson_tells_first 9 ⟨[4]⟩ v document
  obtain ⟨path, w, fault, leads, before, own, same⟩ := (trees _).1 wrong
  obtain ⟨-, place, rfl⟩ := DefinitionError.mk.inj same
  obtain rfl : path = [1, 1] := by simpa using place.symm
  have readable : ∀ v ∈ [good, good], ∃ r, Rule.ofJson v = .ok r := by simp [read]
  exact ⟨v, w, fault, wrong, leads, before, own, good, r, document, read, clash, rfl,
    ((documents _ rfl).2 _).2 ⟨[good, good], _, [], rfl, readable, bad⟩⟩

end Registry

end RuleActivation
