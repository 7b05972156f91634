import Mathlib.Data.Set.Insert
import RuleActivation.Proofs.Evaluation.Meaning
import RuleActivation.Rule.Definition

/-!
# Withheld data

What a case does not tell can activate a rule only where the rule asks for a falsehood. A condition
on a variable that is withheld is false, whatever it was before, unless it demands that the variable
is equal to `false`; and a tree whose leaves only turn false does not become true.

## Main definitions

* `Environment.Withholds`: environments without the values of some variables

## Main results

* `Condition.TrueIn.of_withholds`: conditions on withheld variables
* `Node.TrueIn.of_withholds`: trees that become true when variables are withheld
* `Rule.evaluate_of_withholds`: withheld data activates a rule only by a demand to be false
-/

namespace RuleActivation

/-! ## Withholding variables -/

/-- An environment withholds some variables of another one: each of them is not given, or is given
as absent for whatever reason, and all other variables are given as before. -/
structure Environment.Withholds (names : Set String) (env env' : Environment) : Prop where
  withheld : ∀ name ∈ names,
    env'.get? name = none ∨ ∃ reason, env'.get? name = some (.absent reason)
  kept : ∀ name ∉ names, env'.get? name = env.get? name

namespace Environment.Withholds

variable {names : Set String} {env env' : Environment}

theorem refl (env : Environment) : Withholds ∅ env env := ⟨nofun, fun _ _ => rfl⟩

/-- One more variable can be removed. -/
theorem erase (h : Withholds names env env') (name : String) :
    Withholds (insert name names) env (env'.erase name) where
  withheld other mem := by
    rw [Dictionary.get?_erase]
    split
    · exact .inl rfl
    · rename_i differ
      exact h.withheld other (mem.resolve_left differ)
  kept other unnamed := by
    obtain ⟨differ, outside⟩ := not_or.1 unnamed
    rw [Dictionary.get?_erase, if_neg differ, h.kept other outside]

/-- One more variable can be made absent. -/
theorem insert_absent (h : Withholds names env env') (name : String) (reason : Absence) :
    Withholds (insert name names) env (env'.insert name (.absent reason)) where
  withheld other mem := by
    rw [Dictionary.get?_insert]
    split
    · exact .inr ⟨reason, rfl⟩
    · rename_i differ
      exact h.withheld other (mem.resolve_left differ)
  kept other unnamed := by
    obtain ⟨differ, outside⟩ := not_or.1 unnamed
    rw [Dictionary.get?_insert, if_neg differ, h.kept other outside]

theorem isAbsent_lookup (h : Withholds names env env') {name : String} (mem : name ∈ names) :
    (env'.lookup name).isAbsent = true := by
  rw [lookup]
  rcases h.withheld name mem with missing | ⟨reason, absent⟩
  · rw [missing]
    rfl
  · rw [absent]
    rfl

theorem lookup_eq (h : Withholds names env env') {name : String} (outside : name ∉ names) :
    env'.lookup name = env.lookup name := by
  rw [lookup, lookup, h.kept name outside]

end Environment.Withholds

/-! ## Evaluation -/

variable {names : Set String} {env env' : Environment}

/-- A condition that is true of an absent value demands that it is false. -/
theorem Condition.TrueIn.demandsFalse_of_isAbsent {c : Condition} (h : c.TrueIn env)
    (absent : (env.lookup c.variableName).isAbsent = true) :
    c.operator = .equals ∧ c.literal = .bool false := by
  rcases h with ⟨-, demand⟩ | ⟨compared, -⟩
  · exact demand
  · have given := Operator.isAbsent_of_compares (Operator.compares_iff.2 compared)
    rw [absent] at given
    cases given

/-- A condition that is true when some variables are withheld was true before, or it demands that
one of these variables is false. -/
theorem Condition.TrueIn.of_withholds {c : Condition} (h : env.Withholds names env')
    (holds : c.TrueIn env') :
    c.TrueIn env ∨ c.variableName ∈ names ∧ c.operator = .equals ∧ c.literal = .bool false := by
  by_cases mem : c.variableName ∈ names
  · exact .inr ⟨mem, holds.demandsFalse_of_isAbsent (h.isAbsent_lookup mem)⟩
  · rw [TrueIn, h.lookup_eq mem] at holds
    exact .inl holds

/-- A tree that is true when some variables are withheld was true before, or one of its leaves was
not and demands that one of these variables is false. -/
theorem Node.TrueIn.of_withholds {n : Node} (h : env.Withholds names env')
    (holds : n.TrueIn env') :
    n.TrueIn env ∨ ∃ leaf ∈ n.leaves, ¬ leaf.2.TrueIn env ∧ leaf.2.variableName ∈ names ∧
      leaf.2.operator = .equals ∧ leaf.2.literal = .bool false := by
  by_cases before : n.TrueIn env
  · exact .inl before
  · right
    by_contra none
    refine before (holds.mono fun leaf mem leafHolds => ?_)
    by_contra leafFails
    exact none ⟨leaf, mem, leafFails, (leafHolds.of_withholds h).resolve_left leafFails⟩

namespace Rule

/-- Missing data activates a rule only by a demand to be false: if no leaf of a rule demands that a
withheld variable is `false`, a rule that is activated without these variables is activated with
them, too. -/
theorem evaluate_of_withholds {r : Rule} (h : env.Withholds names env')
    (demands : ∀ leaf ∈ r.tree.leaves, leaf.2.variableName ∈ names →
      ¬ (leaf.2.operator = .equals ∧ leaf.2.literal = .bool false))
    (activated : r.evaluate env' = true) : r.evaluate env = true := by
  have holds : r.tree.TrueIn env' := Node.evaluate_iff_trueIn.1 activated
  apply Node.evaluate_iff_trueIn.2
  refine (holds.of_withholds h).resolve_right ?_
  rintro ⟨leaf, mem, -, withheld, demand⟩
  exact demands leaf mem withheld demand

/-- The definition of a rule with one leaf that demands a falsehood. -/
def waiverDefinition : Json :=
  .object [("id", .ofNat 1), ("name", .string "a"), ("title", .string "t"),
    ("ast", .object [("type", .string "and"), ("children", .array [
      .object [("type", .string "condition"), ("variable", .string "waived"),
        ("operator", .string "equals"), ("value", .bool false)],
      .object [("type", .string "or"), ("children", .array [
        .object [("type", .string "condition"), ("variable", .string "urgent"),
          ("operator", .string "equals"), ("value", .bool true)],
        .object [("type", .string "condition"), ("variable", .string "days"),
          ("operator", .string "greater_than"), ("value", .ofNat 100)]])]])])]

/-- A case that gives all variables of the rule, and another one. -/
def fullCase : Json :=
  .object [("days", .ofNat 180), ("state", .string "SP"), ("urgent", .bool true),
    ("waived", .bool false)]

/-- Neither of the variables `urgent` and `state` is one that the rule demands to be false. -/
theorem evaluate_of_withholds_waiver :
    ∃ r env, Rule.ofJson waiverDefinition = .ok r ∧ Environment.ofJson fullCase = .ok env ∧
      env.Withholds {"state", "urgent"} ((env.erase "urgent").insert "state" (.absent .null)) ∧
      r.evaluate ((env.erase "urgent").insert "state" (.absent .null)) = true ∧
      r.evaluate env = true := by
  obtain ⟨r, env, read, given, quiet, activated⟩ : ∃ r env,
      Rule.ofJson waiverDefinition = .ok r ∧ Environment.ofJson fullCase = .ok env ∧
      (∀ leaf ∈ r.tree.leaves, leaf.2.variableName ∈ ["state", "urgent"] →
        leaf.2.operator.demandsFalse leaf.2.literal = false) ∧
      r.evaluate ((env.erase "urgent").insert "state" (.absent .null)) = true :=
    ⟨_, _, rfl, rfl, by decide, by decide⟩
  have withheld := ((Environment.Withholds.refl env).erase "urgent").insert_absent "state" .null
  rw [insert_empty_eq] at withheld
  refine ⟨r, env, read, given, withheld, activated, evaluate_of_withholds withheld ?_ activated⟩
  intro leaf mem named demand
  have demandsFalse := Operator.demandsFalse_iff.2 demand
  rw [quiet leaf mem (by simpa using named)] at demandsFalse
  cases demandsFalse

end Rule

end RuleActivation
