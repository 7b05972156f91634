import RuleActivation.Proofs.Registry.Building
import RuleActivation.Proofs.Text.Integer

/-!
# What keys lead to

The rules of a registry differ in their numbers and in their names, so that a number or a name leads
to one rule at most. A key that is a text can be meant as a number or as a name. It is looked up as
a number if it spells one, and only otherwise as a name: a rule whose name spells a number cannot be
found by this name, unless the number is its own.

## Main definitions

* `Registry.Answers`: the answer to a key

## Main results

* `Registry.answers_find`, `Registry.answers_findByName`: looking a number or a name up
* `Registry.ofRules_answers`: the rules that make a registry, and what it answers
* `Registry.resolve_answers`: looking a text up
-/

namespace RuleActivation.Registry

variable {κ : Type} {keyOf : Rule → κ} {rules : List Rule} {registry : Registry}

/-- The answer to a key is the only rule that has it, or else that there is none. -/
inductive Answers (keyOf : Rule → κ) (rules : List Rule) (key : κ) (unknown : RegistryError) :
    Except RegistryError Rule → Prop where
  | found {r : Rule} (mem : r ∈ rules) (has : keyOf r = key)
    (only : ∀ s ∈ rules, keyOf s = key → s = r) : Answers keyOf rules key unknown (.ok r)
  | unknown (none : ∀ r ∈ rules, keyOf r ≠ key) : Answers keyOf rules key unknown (.error unknown)

/-- Indexes give the right answers. -/
theorem answers_of_covers [DecidableEq κ] {index : Index κ} (h : index.Covers (rules.map keyOf))
    (key : κ) (unknown : RegistryError) :
    Answers keyOf rules key unknown
      (((index.get? key).bind (rules[·]?)).elim (.error unknown) .ok) := by
  cases found : (index.get? key).bind (rules[·]?) with
  | none =>
    refine .unknown fun r mem has => ?_
    rw [h.bind_getElem?_eq_some_iff.2 ⟨mem, has⟩] at found
    cases found
  | some r =>
    obtain ⟨mem, has⟩ := h.bind_getElem?_eq_some_iff.1 found
    refine .found mem has fun s there same => ?_
    exact Option.some.inj ((h.bind_getElem?_eq_some_iff.2 ⟨there, same⟩).symm.trans found)

/-- A number is answered by the rule with this number. -/
theorem answers_find (registry : Registry) (id : Int64) :
    Answers Rule.id registry.rules id (.unknownId id) (registry.find id) :=
  answers_of_covers registry.covers_ids id _

/-- A name is answered by the rule with this name. -/
theorem answers_findByName (registry : Registry) (name : String) :
    Answers Rule.name registry.rules name (.unknownName name) (registry.findByName name) :=
  answers_of_covers registry.covers_names name _

/-- Rules make a registry if and only if their numbers are distinct and their names are distinct.
The registry answers every number and every name with the only rule that has it. If there is no
registry, the error is that of the first rule whose number, or else whose name, a rule before it
has. -/
theorem ofRules_answers (rules : List Rule) :
    ((∃ registry, ofRules rules = .ok registry) ↔
      (rules.map Rule.id).Nodup ∧ (rules.map Rule.name).Nodup) ∧
    (∀ registry, ofRules rules = .ok registry →
      (∀ id, Answers Rule.id rules id (.unknownId id) (registry.find id)) ∧
      ∀ name, Answers Rule.name rules name (.unknownName name) (registry.findByName name)) ∧
    ∀ e, ofRules rules = .error e ↔ ∃ before r after, rules = before ++ r :: after ∧
      (before.map Rule.id).Nodup ∧ (before.map Rule.name).Nodup ∧ r.Clashes before e := by
  refine ⟨exists_ofRules_iff, fun registry made => ?_, fun e => ofRules_eq_error_iff⟩
  rw [← rules_of_ofRules made]
  exact ⟨registry.answers_find, registry.answers_findByName⟩

/-- A rule that asks for a truth value. -/
def ruleNamed (id : Int64) (name : String) : Rule where
  id := id
  name := name
  title := "t"
  active := true
  tree := .leaf ⟨"x", .equals, .bool true, by simp, rfl⟩

/-- Two rules make a registry, which knows their names, be they empty, and no other number than
theirs. A third rule with the number of the second and the name of the first is refused for its
number. -/
theorem ofRules_answers_refused :
    let r := ruleNamed 1 ""
    let s := ruleNamed 2 "b"
    (∃ registry, ofRules [r, s] = .ok registry ∧
      Answers Rule.name [r, s] "" (.unknownName "") (registry.findByName "") ∧
      registry.findByName "" = .ok r ∧
      Answers Rule.id [r, s] 3 (.unknownId 3) (registry.find 3)) ∧
    ofRules [r, s, ruleNamed 2 ""] = .error (.duplicateId 2) := by
  intro r s
  obtain ⟨distinct, answers, -⟩ := ofRules_answers [r, s]
  obtain ⟨-, -, refused⟩ := ofRules_answers [r, s, ruleNamed 2 ""]
  have ids : ([r, s].map Rule.id).Nodup := by decide
  have names : ([r, s].map Rule.name).Nodup := by decide
  obtain ⟨registry, made⟩ := distinct.2 ⟨ids, names⟩
  obtain ⟨numbers, texts⟩ := answers registry made
  have taken : (ruleNamed 2 "").id ∈ [r, s].map Rule.id := by decide
  have empty : registry.findByName "" = .ok r := by
    rw [findByName_eq_ok_iff, rules_of_ofRules made]
    exact ⟨List.mem_cons_self, rfl⟩
  exact ⟨⟨registry, made, texts "", empty, numbers 3⟩,
    (refused _).2 ⟨[r, s], _, [], rfl, ids, names, .id taken⟩⟩

/-! ## Texts as keys -/

theorem resolve_of_int64? {key : String} {id : Int64} (h : Text.int64? key = some id) :
    registry.resolve key = registry.find id := by
  rw [resolve, h]

theorem resolve_of_no_int64? {key : String} (h : Text.int64? key = none) :
    registry.resolve key = registry.findByName key := by
  rw [resolve, h]

theorem exists_find_iff {id : Int64} :
    (∃ r, registry.find id = .ok r) ↔ id ∈ registry.rules.map Rule.id := by
  simp only [find_eq_ok_iff, List.mem_map]

theorem exists_findByName_iff {name : String} :
    (∃ r, registry.findByName name = .ok r) ↔ name ∈ registry.rules.map Rule.name := by
  simp only [findByName_eq_ok_iff, List.mem_map]

/-- A text that spells a number is answered by the rule with this number, and any other text by the
rule with this name. So a name leads to a rule unless it spells a number that no rule has. The text
of its number leads to every rule. -/
theorem resolve_answers (registry : Registry) (key : String) :
    (∀ id, Text.int64? key = some id →
      Answers Rule.id registry.rules id (.unknownId id) (registry.resolve key)) ∧
    (Text.int64? key = none →
      Answers Rule.name registry.rules key (.unknownName key) (registry.resolve key)) ∧
    (key ∈ registry.rules.map Rule.name →
      ((∃ r, registry.resolve key = .ok r) ↔
        ∀ id, Text.int64? key = some id → id ∈ registry.rules.map Rule.id)) ∧
    ∀ r ∈ registry.rules, registry.resolve (toString r.id.toInt) = .ok r := by
  refine ⟨fun id spelled => ?_, fun unspelled => ?_, fun name => ?_, fun r mem => ?_⟩
  · rw [resolve_of_int64? spelled]
    exact registry.answers_find id
  · rw [resolve_of_no_int64? unspelled]
    exact registry.answers_findByName key
  · cases spelled : Text.int64? key with
    | some id => simp [resolve_of_int64? spelled, exists_find_iff]
    | none => simp [resolve_of_no_int64? spelled, exists_findByName_iff, name]
  · rw [resolve_of_int64? (Text.int64?_toString r.id)]
    exact find_eq_ok_iff.2 ⟨mem, rfl⟩

/-- A rule with the name `42` cannot be found by its name, unless a rule has this number. -/
theorem exists_resolve_name_eq_error :
    ∃ document registry r, ofJson document = .ok registry ∧ r ∈ registry.rules ∧
      registry.resolve r.name = .error (.unknownId 42) :=
  ⟨.object [("rules", .array [(ruleNamed 1 "42").toJson])], _, _, rfl,
    List.mem_cons_self, rfl⟩

end RuleActivation.Registry
