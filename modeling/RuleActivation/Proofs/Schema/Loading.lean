import RuleActivation.Proofs.Registry.Building
import RuleActivation.Proofs.Rule.Failure
import RuleActivation.Proofs.Schema

/-!
# Loading what the schema admits

The schema and the loader describe one format, each in its own way. What the schema admits fails to
load for its meaning only: two rules clash, or an operator cannot be used with its literal. There is
one exception. To the schema every number without a fraction is an integer, and to the loader only
one that is spelled without a point and an exponent and that has 64 bits.

## Main definitions

* `Json.RefusesLiteral`: conditions whose operator cannot be used with their literal
* `Schema.IsSemantic`: the errors that concern the meaning of a document
* `Schema.HasForeignId`: definitions of rules whose number is an integer to the schema only

## Main results

* `Schema.refusesLiteral_of_checkRoot`: what is wrong with one definition that the schema admits
* `Schema.isSemantic_or_unreadId_of_problems`: why a document without problems fails to load
-/

namespace RuleActivation

/-- A definition has an operator that cannot be used with its literal. -/
def Json.RefusesLiteral (v : Json) (refusal : Operator.LiteralFault) : Prop :=
  ∃ spelling op literal, v.get? "operator" = some (.string spelling) ∧
    Operator.ofName? spelling = some op ∧ v.get? "value" = some literal ∧
    op.fault? (Value.ofJson literal) = some refusal

namespace Schema

/-! ## One definition -/

section

variable {members : List (String × Json)}

theorem exists_member_of_isCondition (h : isCondition members = true) (key : String)
    (required : key ∈ ["type", "variable", "operator", "value"]) :
    ∃ v, members.lookup key = some v ∧ isConditionMember (key, v) = true := by
  have present := List.all_eq_true.1 (Bool.and_eq_true_iff.1 h).1 key required
  obtain ⟨v, there⟩ := Option.isSome_iff_exists.1 present
  exact ⟨v, there, isConditionMember_of_mem h (Dictionary.mem_of_lookup_eq_some there)⟩

/-- A condition of the schema has a variable with a name, a known operator and a literal. -/
theorem exists_of_isCondition (h : isCondition members = true) :
    ∃ name spelling op literal, (Json.object members).get? "type" = some (.string "condition") ∧
      (Json.object members).get? "variable" = some (.string name) ∧ name ≠ "" ∧
      (Json.object members).get? "operator" = some (.string spelling) ∧
      Operator.ofName? spelling = some op ∧ (Json.object members).get? "value" = some literal := by
  obtain ⟨type, typeThere, isType⟩ := exists_member_of_isCondition h "type" (by simp)
  obtain ⟨v, variableThere, isVariable⟩ := exists_member_of_isCondition h "variable" (by simp)
  obtain ⟨w, operatorThere, isOperator⟩ := exists_member_of_isCondition h "operator" (by simp)
  obtain ⟨literal, literalThere, -⟩ := exists_member_of_isCondition h "value" (by simp)
  obtain rfl := Json.eq_string_of_asText? (eq_of_beq isType)
  cases v with
  | string name =>
    have named : (name != "") = true := isVariable
    cases w with
    | string spelling =>
      obtain ⟨op, known⟩ := Option.isSome_iff_exists.1 isOperator
      exact ⟨name, spelling, op, literal, typeThere, variableThere, bne_iff_ne.1 named,
        operatorThere, known, literalThere⟩
    | _ => cases isOperator
  | _ => cases isVariable

theorem exists_connective_of_isJunctionType {v : Json} (h : isJunctionType v = true) :
    ∃ connective : Connective, v = .string connective.name := by
  rcases Bool.or_eq_true_iff.1 h with isAnd | isOr
  · exact ⟨.and, Json.eq_string_of_asText? (eq_of_beq isAnd)⟩
  · exact ⟨.or, Json.eq_string_of_asText? (eq_of_beq isOr)⟩

/-- A node with children of the schema has a connective and at least one child. -/
theorem exists_of_areJunctionMembers
    (present : ["type", "children"].all (fun key => (members.lookup key).isSome) = true)
    (h : areJunctionMembers members = true) :
    ∃ connective : Connective, ∃ items,
      (Json.object members).get? "type" = some (.string connective.name) ∧
      (Json.object members).get? "children" = some (.array items) ∧ items ≠ [] := by
  obtain ⟨type, typeThere⟩ :=
    Option.isSome_iff_exists.1 (List.all_eq_true.1 present "type" (by simp))
  obtain ⟨children, childrenThere⟩ :=
    Option.isSome_iff_exists.1 (List.all_eq_true.1 present "children" (by simp))
  rcases isJunctionMember_of_mem h (Dictionary.mem_of_lookup_eq_some typeThere) with
    ⟨other, -⟩ | ⟨-, isType⟩
  · exact absurd other (by decide)
  rcases isJunctionMember_of_mem h (Dictionary.mem_of_lookup_eq_some childrenThere) with
    ⟨-, items, rfl, some, -⟩ | ⟨other, -⟩
  · obtain ⟨connective, rfl⟩ := exists_connective_of_isJunctionType isType
    exact ⟨connective, items, typeThere, childrenThere, some⟩
  · exact absurd other (by decide)

end

theorem exists_members_of_isNode {v : Json} (h : isNode v = true) :
    ∃ members, v = .object members := by
  cases v with
  | object members => exact ⟨members, rfl⟩
  | _ => cases h

/-- The only thing wrong with a definition that the schema admits is that its operator cannot be
used with its literal. -/
theorem refusesLiteral_of_checkRoot {v : Json} {fault : DefinitionFault} (h : isNode v = true)
    (wrong : Node.checkRoot v = .error fault) :
    ∃ refusal, fault = .node (.literal refusal) ∧ v.RefusesLiteral refusal := by
  obtain ⟨members, rfl⟩ := exists_members_of_isNode h
  rcases isNode_object.1 h with condition | ⟨present, junction⟩
  · obtain ⟨name, spelling, op, literal, typeThere, variableThere, named, operatorThere, known,
      literalThere⟩ := exists_of_isCondition condition
    rw [Node.checkRoot_of_condition (NodeType.ofJson_of_get? typeThere),
      Condition.ofJson_of_get? variableThere operatorThere known literalThere] at wrong
    rcases bind_eq_error_iff.1 wrong with bad | ⟨c, -, returned⟩
    · obtain ⟨_, unmade, rfl⟩ := mapError_eq_error_iff.1 bad
      obtain ⟨refusal, refused, rfl⟩ := Condition.exists_fault_of_make named unmade
      exact ⟨refusal, rfl, spelling, op, literal, operatorThere, known, literalThere, refused⟩
    · cases returned
  · obtain ⟨connective, items, typeThere, childrenThere, some⟩ :=
      exists_of_areJunctionMembers present junction
    have type : NodeType.ofJson (.object members) = .ok (.junction connective) :=
      (NodeType.ofJson_of_get? typeThere).trans (NodeType.ofName_connective connective)
    rw [Node.checkRoot_of_junction type, childrenThere] at wrong
    cases items with
    | nil => exact absurd rfl some
    | cons v vs => cases wrong

/-! ## Trees -/

theorem isNode_of_child? {v w : Json} {i : Nat} (h : isNode v = true)
    (child : v.child? i = some w) : isNode w = true := by
  obtain ⟨members, rfl⟩ := exists_members_of_isNode h
  obtain ⟨items, there, item⟩ := Json.child?_eq_some_iff.1 child
  exact isNode_of_children h there w (List.mem_of_getElem? item)

/-- A tree that the schema admits fails where an operator cannot be used with its literal. -/
theorem exists_refusesLiteral_of_ofJson {rule : Int64} {v : Json} {e : DefinitionError}
    (h : isNode v = true) (failed : Node.ofJson rule .root v = .error e) :
    ∃ path w refusal, v.descend? path = some w ∧ w.RefusesLiteral refusal ∧
      e = ⟨some rule, .node ⟨path⟩, .node (.literal refusal)⟩ := by
  obtain ⟨path, w, fault, leads, -, wrong, rfl⟩ :=
    Node.ofJson_eq_error_iff_exists_checkRoot.1 failed
  have below := leads.descend?_eq_some
  have node : isNode w = true := Json.of_descend? (fun _ _ _ => isNode_of_child?) h below
  obtain ⟨refusal, rfl, refuses⟩ := refusesLiteral_of_checkRoot node wrong
  exact ⟨path, w, refusal, below, refuses, rfl⟩

/-! ## Rules -/

/-- The number of a rule is an integer to the schema only: it is spelled with a point or an
exponent, or it does not have 64 bits. -/
def HasForeignId (v : Json) : Prop :=
  ∃ n, v.get? "id" = some (.number n) ∧ isInteger n = true ∧ (Json.number n).asInt64? = none

section

variable {v : Json}

theorem exists_of_mem_requiredProperties (h : ruleProblems v = []) (name : String)
    (required : name ∈ requiredProperties) : ∃ w, v.get? name = some w := by
  cases v with
  | object members =>
    have none := List.map_eq_nil_iff.1 (List.append_eq_nil_iff.1 h).1
    have there := List.filter_eq_nil_iff.1 none name required
    rw [Option.isNone_iff_eq_none] at there
    exact Option.ne_none_iff_exists'.1 there
  | _ => cases h

/-- A property that is always there has no problems. -/
theorem exists_property_of_ruleProblems (h : ruleProblems v = []) (name : String)
    (check : Json → List Problem) (required : name ∈ requiredProperties)
    (checked : (name, check) ∈ propertyChecks) :
    ∃ w, v.get? name = some w ∧ check w = [] := by
  obtain ⟨w, there⟩ := exists_of_mem_requiredProperties h name required
  exact ⟨w, there, check_of_ruleProblems h checked there⟩

theorem exists_number_of_integerProblems {w : Json} (h : integerProblems w = []) :
    ∃ n, w = .number n ∧ isInteger n = true := by
  have integer := ensure_eq_nil_iff.1 h
  cases w with
  | number n => exact ⟨n, rfl, integer⟩
  | _ => cases integer

theorem exists_text_of_textProblems {w : Json} (h : textProblems w = []) :
    ∃ s, w = .string s := by
  obtain ⟨s, text⟩ := Option.isSome_iff_exists.1 (ensure_eq_nil_iff.1 h)
  exact ⟨s, Json.eq_string_of_asText? text⟩

theorem exists_nameOf_of_ruleProblems (h : ruleProblems v = []) :
    ∃ name, Rule.nameOf v = .ok name := by
  obtain ⟨w, there, problems⟩ :=
    exists_property_of_ruleProblems h "name" nameProblems (by decide) (by simp [propertyChecks])
  obtain ⟨isText, some⟩ := List.append_eq_nil_iff.1 problems
  obtain ⟨name, rfl⟩ := exists_text_of_textProblems isText
  have named : name ≠ "" := by simpa [Json.asText?] using ensure_eq_nil_iff.1 some
  exact ⟨name, Rule.nameOf_eq_ok_iff.2 ⟨there, named⟩⟩

theorem exists_titleOf_of_ruleProblems (h : ruleProblems v = []) :
    ∃ title, Rule.textOf v "title" = .ok title := by
  obtain ⟨w, there, problems⟩ :=
    exists_property_of_ruleProblems h "title" textProblems (by decide) (by simp [propertyChecks])
  obtain ⟨title, rfl⟩ := exists_text_of_textProblems problems
  exact ⟨title, Rule.textOf_eq_ok_iff.2 there⟩

theorem exists_activeOf_of_ruleProblems (h : ruleProblems v = []) :
    ∃ active, Rule.activeOf v = .ok active := by
  rw [Rule.activeOf]
  cases there : v.get? "active" with
  | none => exact ⟨true, rfl⟩
  | some w =>
    have problems : boolProblems w = [] := check_of_ruleProblems h (by simp [propertyChecks]) there
    have isBool := ensure_eq_nil_iff.1 problems
    cases w with
    | bool b => exact ⟨b, rfl⟩
    | _ => cases isBool

/-- A rule that the schema admits fails for its number, or where an operator cannot be used with its
literal. -/
theorem cases_of_ruleProblems {e : DefinitionError} (h : ruleProblems v = [])
    (failed : Rule.ofJson v = .error e) :
    (e = ⟨none, .field "id", .missingId⟩ ∧ HasForeignId v) ∨
      ∃ id definition path w refusal, (v.get? "id").bind Json.asInt64? = some id ∧
        v.get? "ast" = some definition ∧ definition.descend? path = some w ∧
        w.RefusesLiteral refusal ∧ e = ⟨some id, .node ⟨path⟩, .node (.literal refusal)⟩ := by
  obtain ⟨name, nameRead⟩ := exists_nameOf_of_ruleProblems h
  obtain ⟨title, titleRead⟩ := exists_titleOf_of_ruleProblems h
  obtain ⟨active, activeRead⟩ := exists_activeOf_of_ruleProblems h
  obtain ⟨definition, there⟩ := exists_of_mem_requiredProperties h "ast" (by decide)
  rw [Rule.ofJson_of_parts nameRead titleRead activeRead there] at failed
  rcases bind_eq_error_iff.1 failed with bad | ⟨id, read, later⟩
  · obtain ⟨_, missing, rfl⟩ := DefinitionError.locate_eq_error_iff.1 bad
    obtain ⟨none, rfl⟩ := DefinitionFault.require_eq_error_iff.1 missing
    obtain ⟨w, idThere, problems⟩ :=
      exists_property_of_ruleProblems h "id" integerProblems (by decide) (by simp [propertyChecks])
    obtain ⟨n, rfl, integer⟩ := exists_number_of_integerProblems problems
    rw [idThere] at none
    exact .inl ⟨rfl, n, idThere, integer, none⟩
  · rcases bind_eq_error_iff.1 later with bad | ⟨tree, -, returned⟩
    · have node := isNode_of_ruleProblems h there
      obtain ⟨path, w, refusal, below, refuses, rfl⟩ := exists_refusesLiteral_of_ofJson node bad
      have number := DefinitionError.locate_require_eq_ok_iff.1 read
      exact .inr ⟨id, definition, path, w, refusal, number, there, below, refuses, rfl⟩
    · cases returned

end

/-! ## Documents -/

/-- The errors of a document that concern the meaning of its rules. -/
inductive IsSemantic (document : Json) : RegistryError → Prop where
  /-- A rule has the number of an earlier one. -/
  | duplicateId {before : List Rule} {r : Rule} {after : List Rule}
      (read : Registry.rulesOf document = .ok (before ++ r :: after))
      (taken : r.id ∈ before.map Rule.id) : IsSemantic document (.duplicateId r.id)
  /-- A rule has the name of an earlier one. -/
  | duplicateName {before : List Rule} {r : Rule} {after : List Rule}
      (read : Registry.rulesOf document = .ok (before ++ r :: after))
      (taken : r.name ∈ before.map Rule.name) :
      IsSemantic document (.duplicateName r.id r.name)
  /-- An operator in the tree of a rule cannot be used with its literal. -/
  | literal {items : List Json} {item definition w : Json} {id : Int64} {path : List Nat}
      {refusal : Operator.LiteralFault} (found : document.get? "rules" = some (.array items))
      (listed : item ∈ items) (number : (item.get? "id").bind Json.asInt64? = some id)
      (tree : item.get? "ast" = some definition) (there : definition.descend? path = some w)
      (refuses : w.RefusesLiteral refusal) :
      IsSemantic document (.definition ⟨some id, .node ⟨path⟩, .node (.literal refusal)⟩)

/-- The error of a rule whose number cannot be read. -/
def unreadId : RegistryError := .definition ⟨none, .field "id", .missingId⟩

/-- The first rule of a document that cannot be read has a number that is an integer to the schema
only. -/
def HasForeignIdFirst (document : Json) : Prop :=
  ∃ before item after, document.get? "rules" = some (.array (before ++ item :: after)) ∧
    (∀ v ∈ before, ∃ r, Rule.ofJson v = .ok r) ∧ HasForeignId item

section

variable {document : Json}

theorem exists_items_of_problems (h : problems document = []) :
    ∃ items, document.get? "rules" = some (.array items) := by
  cases document with
  | object members =>
    rw [problems] at h
    cases there : members.lookup "rules" with
    | none =>
      rw [there] at h
      cases h
    | some v =>
      rw [there] at h
      cases v with
      | array items => exact ⟨items, there⟩
      | _ => cases h
  | _ => cases h

theorem not_isSemantic_unreadId : ¬ IsSemantic document unreadId := nofun

theorem ofJson_of_hasForeignIdFirst (h : HasForeignIdFirst document) :
    Registry.ofJson document = .error unreadId := by
  obtain ⟨before, item, after, found, good, n, there, -, foreign⟩ := h
  have bad : Rule.ofJson item = .error ⟨none, .field "id", .missingId⟩ := by
    rw [Rule.ofJson, there, Option.bind_some, foreign]
    rfl
  exact bind_eq_error_iff.2 (.inl ((Registry.rulesOf_eq_error_iff found).2
    ⟨before, item, after, _, rfl, good, bad, rfl⟩))

/-- Why a document without problems fails to load. -/
theorem cases_of_problems {e : RegistryError} (h : problems document = [])
    (failed : Registry.ofJson document = .error e) :
    IsSemantic document e ∨ (e = unreadId ∧ HasForeignIdFirst document) := by
  obtain ⟨items, found⟩ := exists_items_of_problems h
  rcases bind_eq_error_iff.1 failed with unread | ⟨rules, read, unmade⟩
  · obtain ⟨before, item, after, _, rfl, good, broken, rfl⟩ :=
      (Registry.rulesOf_eq_error_iff found).1 unread
    have listed : item ∈ before ++ item :: after := by simp
    rcases cases_of_ruleProblems (ruleProblems_of_problems h found item listed) broken with
      ⟨rfl, foreign⟩ | ⟨id, definition, path, w, refusal, number, tree, there, refuses, rfl⟩
    · exact .inr ⟨rfl, before, item, after, found, good, foreign⟩
    · exact .inl (.literal found listed number tree there refuses)
  · obtain ⟨before, r, after, rfl, -, -, clash⟩ := Registry.ofRules_eq_error_iff.1 unmade
    cases clash with
    | id taken => exact .inl (.duplicateId read taken)
    | name _ taken => exact .inl (.duplicateName read taken)

/-- A document without problems fails to load for what its rules mean, or because the number of a
rule cannot be read. The latter happens if and only if the first rule that cannot be read has a
number that is an integer to the schema only. -/
theorem isSemantic_or_unreadId_of_problems (h : problems document = []) :
    (∀ e, Registry.ofJson document = .error e → IsSemantic document e ∨ e = unreadId) ∧
      (Registry.ofJson document = .error unreadId ↔ HasForeignIdFirst document) := by
  refine ⟨fun e failed => (cases_of_problems h failed).imp_right And.left, fun failed => ?_,
    ofJson_of_hasForeignIdFirst⟩
  rcases cases_of_problems h failed with semantic | ⟨-, foreign⟩
  · exact absurd semantic not_isSemantic_unreadId
  · exact foreign

end

/-- The definition of a rule that asks for one of two conditions to hold. -/
def eitherDefinition (id : Json) (name : String) : Json :=
  .object [("id", id), ("name", .string name), ("title", .string ""),
    ("ast", .object [("type", .string "or"), ("children", .array [
      .object [("type", .string "condition"), ("variable", .string "x"),
        ("operator", .string "in"), ("value", .array [.bool true, .string "a"])],
      .object [("type", .string "condition"), ("variable", .string "y"),
        ("operator", .string "=="), ("value", .bool false)]])])]

/-- A document whose second rule has a number with an exponent, by the general theorem. -/
theorem isSemantic_or_unreadId_of_problems_exponent :
    ∃ document, problems document = [] ∧
      (∀ e, Registry.ofJson document = .error e → IsSemantic document e ∨ e = unreadId) ∧
      (Registry.ofJson document = .error unreadId ↔ HasForeignIdFirst document) ∧
      HasForeignIdFirst document := by
  let first := eitherDefinition (.ofInt 1) "a"
  let second := eitherDefinition (.number ⟨false, 1, [], some ⟨false, 2, []⟩⟩) "b"
  have valid : problems (.object [("rules", .array [first, second])]) = [] := rfl
  have read : ∀ v ∈ [first], ∃ r, Rule.ofJson v = .ok r :=
    List.forall_mem_singleton.2 ⟨_, rfl⟩
  obtain ⟨errors, foreign⟩ := isSemantic_or_unreadId_of_problems valid
  exact ⟨_, valid, errors, foreign, [first], second, [], rfl, read, _, rfl, rfl, rfl⟩

/-- The number `1.0` is an integer to the schema, but not to the loader. -/
theorem exists_problems_eq_nil_not_isSemantic :
    ∃ document e, problems document = [] ∧ Registry.ofJson document = .error e ∧
      ¬ IsSemantic document e :=
  ⟨.object [("rules", .array [eitherDefinition (.number ⟨false, 1, [0], none⟩) "a"])], unreadId,
    rfl, rfl, not_isSemantic_unreadId⟩

end Schema

end RuleActivation
