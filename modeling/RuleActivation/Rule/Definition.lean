import RuleActivation.Rule.Basic

/-!
# Rule definitions

A rule document is an object with an array `rules`. Each rule has an integer `id`, a `name`, a
`title`, perhaps a truth value `active`, and a tree `ast` whose nodes are told apart by their
`type`. The first problem in the order in which the parts of a rule are read is reported, with
the rule and the place where it was found.

## Main definitions

* `DefinitionError`: what is wrong with a definition, and where
* `Node.ofJson`: the tree of a definition
* `Rule.ofJson`: the rule of a definition
-/

namespace RuleActivation

/-! ## Errors -/

/-- The place of a problem in the definition of a rule. -/
inductive DefinitionPlace where
  | field (name : String)
  | node (position : Position)
  deriving DecidableEq, Repr

/-- The text of a place. -/
def DefinitionPlace.text : DefinitionPlace → String
  | field name => name
  | node position => position.text

/-- What is wrong with the definition of a rule. -/
inductive DefinitionFault where
  | missingId
  | missingText (field : String)
  | emptyName
  | activeType (typeName : String)
  | missingTree
  | missingType
  | missingVariable
  | missingOperator
  | unknownOperator (spelling : String)
  | missingLiteral
  | missingChildren (connective : Connective)
  | unknownType (typeName : String)
  | node (fault : NodeFault)

/-- The text of a fault. -/
def DefinitionFault.message : DefinitionFault → String
  | missingId => "missing integer 'id'"
  | missingText field => "missing string '" ++ field ++ "'"
  | emptyName => "rule name is empty"
  | activeType typeName => "'active' must be a boolean, got " ++ typeName
  | missingTree => "missing 'ast'"
  | missingType => "node missing 'type'"
  | missingVariable => "condition missing 'variable'"
  | missingOperator => "condition missing 'operator'"
  | unknownOperator spelling => "unknown operator '" ++ spelling ++ "'"
  | missingLiteral => "condition missing 'value'"
  | missingChildren connective => connective.name ++ " node missing 'children' array"
  | unknownType typeName => "unknown node type '" ++ typeName ++ "'"
  | node fault => fault.message

/-- A problem in the definition of a rule. -/
structure DefinitionError where
  rule : Option Int64
  place : DefinitionPlace
  fault : DefinitionFault

/-- The text of an error. -/
def DefinitionError.message (e : DefinitionError) : String :=
  "rule " ++ e.rule.elim "<unknown>" (fun id => toString id.toInt) ++ " at " ++ e.place.text ++
    ": " ++ e.fault.message

/-- The part of a definition that is asked for, or else a fault. -/
def DefinitionFault.require {α : Type} (fault : DefinitionFault) : Option α →
    Except DefinitionFault α
  | some a => .ok a
  | none => .error fault

/-- Tells where in the definition of which rule a fault occurred. -/
def DefinitionError.locate {α : Type} (rule : Option Int64) (place : DefinitionPlace) :
    Except DefinitionFault α → Except DefinitionError α
  | .ok a => .ok a
  | .error fault => .error ⟨rule, place, fault⟩

/-! ## Trees -/

/-- The type of a node definition. -/
inductive NodeType where
  | condition
  | junction (connective : Connective)
  deriving DecidableEq, Repr

/-- The node type of a name. -/
def NodeType.ofName (name : String) : Except DefinitionFault NodeType :=
  if name = "condition" then .ok .condition
  else if name = "and" then .ok (.junction .and)
  else if name = "or" then .ok (.junction .or)
  else .error (.unknownType name)

/-- The type of a node definition. -/
def NodeType.ofJson (v : Json) : Except DefinitionFault NodeType := do
  NodeType.ofName (← DefinitionFault.missingType.require ((v.get? "type").bind Json.asText?))

/-- The condition of a definition. -/
def Condition.ofJson (v : Json) : Except DefinitionFault Condition := do
  let variableName ←
    DefinitionFault.missingVariable.require ((v.get? "variable").bind Json.asText?)
  let spelling ← DefinitionFault.missingOperator.require ((v.get? "operator").bind Json.asText?)
  let operator ← (DefinitionFault.unknownOperator spelling).require (Operator.ofName? spelling)
  let literal ← DefinitionFault.missingLiteral.require (v.get? "value")
  (Condition.make variableName operator (Value.ofJson literal)).mapError .node

namespace Node

section

variable (rule : Int64)

mutual

/-- The tree of a definition that stands at a position. -/
def ofJson (p : Position) : Json → Except DefinitionError Node
  | .object members => do
    match ← DefinitionError.locate (some rule) (.node p) (NodeType.ofJson (.object members)) with
    | .condition =>
      let condition ←
        DefinitionError.locate (some rule) (.node p) (Condition.ofJson (.object members))
      return .leaf condition
    | .junction connective =>
      let children ← ofMembers p connective members
      DefinitionError.locate (some rule) (.node p) ((join connective children).mapError .node)
  | _ => .error ⟨some rule, .node p, .missingType⟩

/-- The trees of the children that the members of a definition list. -/
def ofMembers (p : Position) (connective : Connective) :
    List (String × Json) → Except DefinitionError (List Node)
  | [] => .error ⟨some rule, .node p, .missingChildren connective⟩
  | (key, v) :: rest =>
    if key = "children" then
      match v with
      | .array items => ofItems p 0 items
      | _ => .error ⟨some rule, .node p, .missingChildren connective⟩
    else ofMembers p connective rest

/-- The trees of a list of definitions, the children from an index on. -/
def ofItems (p : Position) (index : Nat) : List Json → Except DefinitionError (List Node)
  | [] => .ok []
  | v :: vs => do
    let child ← ofJson (p.child index) v
    let rest ← ofItems p (index + 1) vs
    return child :: rest

end

end

end Node

/-! ## Rules -/

namespace Rule

/-- The text of a member of a rule definition. -/
def textOf (v : Json) (field : String) : Except DefinitionFault String :=
  (DefinitionFault.missingText field).require ((v.get? field).bind Json.asText?)

/-- The name in a rule definition, which must not be empty. -/
def nameOf (v : Json) : Except DefinitionFault String := do
  let name ← textOf v "name"
  if name = "" then .error .emptyName else .ok name

/-- Whether the rule of a definition is active: yes, unless the definition says otherwise. -/
def activeOf (v : Json) : Except DefinitionFault Bool :=
  match v.get? "active" with
  | none => .ok true
  | some (.bool b) => .ok b
  | some other => .error (.activeType other.typeName)

/-- The rule of a definition. -/
def ofJson (v : Json) : Except DefinitionError Rule := do
  let id ← DefinitionError.locate none (.field "id")
    (DefinitionFault.missingId.require ((v.get? "id").bind Json.asInt64?))
  let name ← DefinitionError.locate (some id) (.field "name") (nameOf v)
  let title ← DefinitionError.locate (some id) (.field "title") (textOf v "title")
  let active ← DefinitionError.locate (some id) (.field "active") (activeOf v)
  let definition ← DefinitionError.locate (some id) (.field "ast")
    (DefinitionFault.missingTree.require (v.get? "ast"))
  let tree ← Node.ofJson id .root definition
  return ⟨id, name, title, active, tree⟩

end Rule

end RuleActivation
