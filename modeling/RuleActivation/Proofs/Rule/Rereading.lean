import RuleActivation.Proofs.Operator
import RuleActivation.Proofs.Registry.Building
import RuleActivation.Proofs.Rule.Definition

/-!
# Reading a definition back

A rule that is written as a definition and read again is its plain rule: the literals are plain, and
all else is as it was. The definitions of a registry's rules therefore make a registry again. Only a
rule without a name cannot be read, and no rule that has been read is without one.

## Main definitions

* `Condition.plain`, `Node.plain`, `Rule.plain`: what a definition keeps
* `Registry.toJson`: the document with the definitions of all rules

## Main results

* `Operator.fault?_plain_of_usable`: the plain literal can be used as well
* `Node.ofJson_toJson`, `Rule.ofJson_toJson`: a definition keeps the plain tree, or rule
* `Registry.exists_ofJson_toJson_iff`: the document of a registry loads if all rules have names
-/

namespace RuleActivation

/-! ## Literals -/

namespace Value

theorem plainItems_eq_map (items : List Value) : plainItems items = items.map plain := by
  induction items with
  | nil => rfl
  | cons v vs ih => rw [plainItems, ih, List.map_cons]

@[simp] theorem isAbsent_plain (v : Value) : v.plain.isAbsent = v.isAbsent := by
  cases v <;> rfl

@[simp] theorem isScalar_plain (v : Value) : v.plain.isScalar = v.isScalar := by
  cases v <;> rfl

end Value

/-- The plain literal of a literal that can be used can be used as well. -/
theorem Operator.fault?_plain_of_usable {op : Operator} {literal : Value}
    (h : op.fault? literal = none) : op.fault? literal.plain = none := by
  cases literal with
  | list items =>
    rw [Value.plain, Value.plainItems_eq_map]
    cases op with
    | equals =>
      rw [fault?] at h ⊢
      simpa [List.any_map, Function.comp_def] using h
    | inList =>
      refine Option.map_eq_none_iff.2 (List.find?_eq_none.2 ?_)
      intro v mem
      obtain ⟨item, there, rfl⟩ := List.mem_map.1 mem
      simpa using isScalar_of_mem_of_usable h there
    | contains | greaterThan | lessOrEqual => cases h
  | absent reason => cases op <;> cases h
  | _ => cases op <;> first | rfl | cases h

/-! ## Trees -/

/-- What the definition of a condition keeps. -/
def Condition.plain (c : Condition) : Condition :=
  { c with literal := c.literal.plain, usable := Operator.fault?_plain_of_usable c.usable }

/-- A definition keeps the plain condition. -/
theorem Condition.ofJson_toJson (c : Condition) : ofJson c.toJson = .ok c.plain := by
  rw [toJson, ofJson_of_get? rfl rfl (Operator.ofName?_name _) rfl, Value.ofJson_toJson]
  exact congrArg _ c.plain.make_eq_ok

namespace Node

mutual

/-- What the definition of a tree keeps. -/
def plain : Node → Node
  | .leaf c => .leaf c.plain
  | .junction k cs => .junction k (plainChildren cs)

/-- What the definitions of children keep. -/
def plainChildren : Children → Children
  | .one n => .one n.plain
  | .more n rest => .more n.plain (plainChildren rest)

end

mutual

/-- A definition keeps the plain tree. -/
theorem ofJson_toJson (rule : Int64) (p : Position) (n : Node) :
    ofJson rule p n.toJson = .ok n.plain := by
  match n with
  | .leaf c =>
    have typed : NodeType.ofJson c.toJson = .ok .condition := rfl
    rw [toJson, ofJson_of_condition typed, Condition.ofJson_toJson]
    rfl
  | .junction k cs =>
    have typed : NodeType.ofJson (junction k cs).toJson = .ok (.junction k) := by
      rw [toJson, NodeType.ofJson_of_get? rfl, NodeType.ofName_connective]
    have listed : (junction k cs).toJson.get? "children" = some (.array (toJsonChildren cs)) := by
      rw [toJson]
      rfl
    rw [ofJson_of_junction typed, listed]
    refine bind_eq_ok_iff.2 ⟨_, ofItems_toJsonChildren rule p 0 cs, ?_⟩
    rw [join_toList, plain]
    rfl

theorem ofItems_toJsonChildren (rule : Int64) (p : Position) (index : Nat) (cs : Children) :
    ofItems rule p index (toJsonChildren cs) = .ok (plainChildren cs).toList := by
  match cs with
  | .one n =>
    rw [toJsonChildren, ofItems, ofJson_toJson rule _ n]
    rfl
  | .more n rest =>
    rw [toJsonChildren, ofItems, ofJson_toJson rule _ n, ofItems_toJsonChildren rule p _ rest]
    rfl

end

end Node

/-! ## Rules -/

theorem Json.asInt64?_ofInt (i : Int64) : (ofInt i.toInt).asInt64? = some i := by
  rw [ofInt, asInt64?, Number.toInt?_ofInt, Option.bind_some, bounded?_toInt]

/-- What the definition of a rule keeps. -/
def Rule.plain (r : Rule) : Rule := { r with tree := r.tree.plain }

/-- A definition keeps the plain rule if the rule has a name. -/
theorem Rule.ofJson_toJson {r : Rule} (named : r.name ≠ "") : ofJson r.toJson = .ok r.plain := by
  have nameRead : nameOf r.toJson = .ok r.name := nameOf_eq_ok_iff.2 ⟨rfl, named⟩
  have treeRead := Node.ofJson_toJson r.id .root r.tree
  exact ofJson_eq_ok_iff.2
    ⟨Json.asInt64?_ofInt r.id, nameRead, rfl, rfl, r.tree.toJson, rfl, treeRead⟩

/-! ## Registries -/

namespace Registry

/-- The document with the definitions of all rules, in order. -/
def toJson (registry : Registry) : Json :=
  .object [("rules", .ofList Rule.toJson registry.rules)]

variable {registry : Registry}

theorem rulesOf_toJson (named : ∀ r ∈ registry.rules, r.name ≠ "") :
    rulesOf registry.toJson = .ok (registry.rules.map Rule.plain) := by
  have each : ∀ r ∈ registry.rules,
      ((Rule.ofJson r.toJson).mapError RegistryError.definition) = .ok r.plain :=
    fun r mem => mapError_eq_ok_iff.2 (Rule.ofJson_toJson (named r mem))
  show (registry.rules.map Rule.toJson).mapM _ = _
  rw [List.mapM_map]
  exact mapM_eq_ok each

/-- The document of a registry whose rules have names loads as the registry of the plain rules. -/
theorem exists_ofJson_toJson (named : ∀ r ∈ registry.rules, r.name ≠ "") :
    ∃ registry', ofJson registry.toJson = .ok registry' ∧
      registry'.rules = registry.rules.map Rule.plain := by
  have ids : ((registry.rules.map Rule.plain).map Rule.id).Nodup := by
    rw [List.map_map]
    exact registry.distinct_ids
  have names : ((registry.rules.map Rule.plain).map Rule.name).Nodup := by
    rw [List.map_map]
    exact registry.distinct_names
  obtain ⟨registry', made⟩ := exists_ofRules_iff.2 ⟨ids, names⟩
  exact ⟨registry', bind_eq_ok_iff.2 ⟨_, rulesOf_toJson named, made⟩, rules_of_ofRules made⟩

/-- The document of a registry loads, as the registry of the plain rules, if and only if all rules
have names. -/
theorem exists_ofJson_toJson_iff :
    (∃ registry', ofJson registry.toJson = .ok registry' ∧
      registry'.rules = registry.rules.map Rule.plain) ↔ ∀ r ∈ registry.rules, r.name ≠ "" := by
  constructor
  · rintro ⟨registry', loaded, rules⟩ r mem
    have kept : r.plain ∈ registry'.rules := by
      rw [rules]
      exact List.mem_map_of_mem mem
    exact name_ne_of_ofJson loaded r.plain kept
  · exact exists_ofJson_toJson

end Registry

end RuleActivation
