import RuleActivation.Directory
import RuleActivation.Index
import RuleActivation.Json.Reader
import RuleActivation.Rule.Definition

/-!
# Registries

A registry holds the rules of a document in its order, with one index of their numbers and one of
their names. So no two rules have the same number, and no two have the same name. A handle keeps the
current registry and replaces it as a whole.

## Main definitions

* `Registry`: rules and the indexes of their numbers and names
* `Registry.add`: the registry with one more rule
* `Registry.ofRules`, `Registry.ofJson`: the registry of a list of rules, or of a document
* `Registry.ofFile`: the registry of a file
* `Registry.find?`, `Registry.findByName?`, `Registry.resolve`: looking a rule up
* `Registry.Handle`: the current registry

## Main results

* `Registry.distinct_ids`, `Registry.distinct_names`: the numbers and the names are distinct
-/

namespace RuleActivation

/-- Why there is no registry, or no rule in it. -/
inductive RegistryError where
  | definition (error : DefinitionError)
  | unknownId (id : Int64)
  | unknownName (name : String)
  | duplicateId (id : Int64)
  | duplicateName (id : Int64) (name : String)
  | missingRules
  | notJson
  | file (path : String) (fault : FileFault)

/-- The text of an error. -/
def RegistryError.message : RegistryError → String
  | definition error => error.message
  | unknownId id => "rule not found: " ++ toString id.toInt
  | unknownName name => "rule not found: " ++ name
  | duplicateId id => "duplicate rule id: " ++ toString id.toInt
  | duplicateName id name =>
    "duplicate rule name '" ++ name ++ "' (rule " ++ toString id.toInt ++ ")"
  | missingRules => "invalid rule document: missing 'rules' array"
  | notJson => "invalid rule document: not a JSON text"
  | file path fault => "error reading '" ++ path ++ "': " ++ fault.message

/-- Rules and the indexes of their numbers and of their names. -/
structure Registry where
  rules : List Rule
  ids : Index Int64
  names : Index String
  covers_ids : ids.Covers (rules.map Rule.id)
  covers_names : names.Covers (rules.map Rule.name)

namespace Registry

/-- The registry without rules. -/
def empty : Registry := ⟨[], ∅, ∅, .empty, .empty⟩

instance : EmptyCollection Registry := ⟨empty⟩

instance : Inhabited Registry := ⟨∅⟩

theorem distinct_ids (registry : Registry) : (registry.rules.map Rule.id).Nodup :=
  registry.covers_ids.nodup

theorem distinct_names (registry : Registry) : (registry.rules.map Rule.name).Nodup :=
  registry.covers_names.nodup

/-! ## Building registries -/

/-- The registry with one more rule at its end, unless the number of the rule, or else its name, is
already taken. -/
def add (registry : Registry) (r : Rule) : Except RegistryError Registry :=
  match newId : registry.ids.get? r.id with
  | some _ => .error (.duplicateId r.id)
  | none =>
    match newName : registry.names.get? r.name with
    | some _ => .error (.duplicateName r.id r.name)
    | none =>
      .ok {
        rules := registry.rules ++ [r]
        ids := registry.ids.insert r.id registry.rules.length
        names := registry.names.insert r.name registry.rules.length
        covers_ids := by simpa using registry.covers_ids.insert newId
        covers_names := by simpa using registry.covers_names.insert newName }

/-- The registry of a list of rules, or its first clash. -/
def ofRules (rules : List Rule) : Except RegistryError Registry := rules.foldlM add ∅

/-- The rules of a document, or the error of the first bad one. -/
def rulesOf (document : Json) : Except RegistryError (List Rule) :=
  match (document.get? "rules").bind Json.asItems? with
  | none => .error .missingRules
  | some items => items.mapM fun item => (Rule.ofJson item).mapError .definition

/-- The registry of a document. -/
def ofJson (document : Json) : Except RegistryError Registry := do ofRules (← rulesOf document)

/-- The registry of the file at a path. -/
def ofFile (read : FileReader) (path : String) : Except RegistryError Registry :=
  match read path with
  | .error fault => .error (.file path fault)
  | .ok text => (Json.parse? text).elim (.error .notJson) ofJson

/-! ## Looking rules up -/

/-- The rule with a given number. -/
def find? (registry : Registry) (id : Int64) : Option Rule :=
  (registry.ids.get? id).bind (registry.rules[·]?)

/-- The rule with a given name. -/
def findByName? (registry : Registry) (name : String) : Option Rule :=
  (registry.names.get? name).bind (registry.rules[·]?)

/-- The rule with a given number, or an error. -/
def find (registry : Registry) (id : Int64) : Except RegistryError Rule :=
  (registry.find? id).elim (.error (.unknownId id)) .ok

/-- The rule with a given name, or an error. -/
def findByName (registry : Registry) (name : String) : Except RegistryError Rule :=
  (registry.findByName? name).elim (.error (.unknownName name)) .ok

/-- The rule of a key: the number that the key spells, or else a name. A key that spells a number is
never looked up as a name. -/
def resolve (registry : Registry) (key : String) : Except RegistryError Rule :=
  match Text.int64? key with
  | some id => registry.find id
  | none => registry.findByName key

/-- The active rules, in order. -/
def activeRules (registry : Registry) : List Rule := registry.rules.filter Rule.active

/-- The variables of the active rules in the order of their first occurrence. -/
def activeVariables (registry : Registry) : List String :=
  Node.firstOccurrences (registry.activeRules.flatMap Rule.variableNames)

/-! ## Replacing a registry -/

/-- The place of the current registry. -/
structure Handle where
  current : Registry

namespace Handle

/-- The handle with another current registry. -/
def replace (_ : Handle) (registry : Registry) : Handle := ⟨registry⟩

/-- The handle with the registry of a document; if there is none, the handle as it is, and the
error. -/
def reload (handle : Handle) (document : Json) : Handle × Option RegistryError :=
  match ofJson document with
  | .ok registry => (handle.replace registry, none)
  | .error error => (handle, some error)

end Handle

end Registry

end RuleActivation
