import RuleActivation.Proofs.Evaluation.Agreement
import RuleActivation.Proofs.Json.Scanning
import RuleActivation.Proofs.Operator
import RuleActivation.Rule.Definition

/-!
# What a fingerprint tells

The fingerprint of a tree is the digest of its compact definition. Trees with the same definition
differ at most in what their literals lose in JSON, which is the spelling of numbers and the
reasons for absences. The spelling makes no difference to evaluation, but the reasons do, in the
lists inside of a list that a value has to be equal to.

## Main definitions

* `Condition.SameDefinition`: conditions that JSON does not tell apart
* `Environment.IsWhole`: environments without an absence inside of a list

## Main results

* `Node.related_of_compact_eq`: trees with the same compact definition
* `Node.agree_of_compact_eq`: how far they agree
-/

namespace RuleActivation

open List (Forall₂)

/-! ## Definitions -/

/-- Conditions that JSON does not tell apart. -/
structure Condition.SameDefinition (c d : Condition) : Prop where
  variableName : c.variableName = d.variableName
  operator : c.operator = d.operator
  literal : c.literal.plain = d.literal.plain

theorem Operator.name_injective : Function.Injective Operator.name := fun a b h =>
  Option.some.inj (by rw [← ofName?_name a, h, ofName?_name])

theorem Connective.name_injective : Function.Injective Connective.name := fun k l h => by
  cases k <;> cases l <;> first | rfl | simp [name] at h

theorem Condition.sameDefinition_of_toJson_eq {c d : Condition} (h : c.toJson = d.toJson) :
    c.SameDefinition d := by
  simp only [toJson, Json.object.injEq, List.cons.injEq, Prod.mk.injEq, Json.string.injEq,
    true_and, and_true] at h
  exact ⟨h.2.2, Operator.name_injective h.1, Value.plain_eq_of_toJson_eq h.2.1⟩

namespace Node

mutual

theorem related_of_toJson_eq {t u : Node} (h : t.toJson = u.toJson) :
    t.Related Condition.SameDefinition u := by
  match t, u with
  | .leaf c, .leaf d => exact .leaf (Condition.sameDefinition_of_toJson_eq h)
  | .junction k cs, .junction l ds =>
    simp only [toJson, Json.object.injEq, List.cons.injEq, Prod.mk.injEq, Json.array.injEq,
      Json.string.injEq, true_and, and_true] at h
    obtain rfl := Connective.name_injective h.2
    exact .junction k (related_of_toJsonChildren_eq h.1)
  | .leaf _, .junction _ _ | .junction _ _, .leaf _ => simp [toJson, Condition.toJson] at h

theorem related_of_toJsonChildren_eq {cs ds : Children}
    (h : toJsonChildren cs = toJsonChildren ds) :
    cs.Related Condition.SameDefinition ds := by
  match cs, ds with
  | .one m, .one n => exact .one (related_of_toJson_eq (List.singleton_inj.1 h))
  | .more m ms, .more n ns =>
    obtain ⟨first, others⟩ := List.cons.inj h
    exact .more (related_of_toJson_eq first) (related_of_toJsonChildren_eq others)
  | .one _, .more _ ns => exact absurd (List.cons.inj h).2.symm (toJsonChildren_ne_nil ns)
  | .more _ ms, .one _ => exact absurd (List.cons.inj h).2 (toJsonChildren_ne_nil ms)

end

/-- Trees with the same compact definition differ at most in what JSON loses. -/
theorem related_of_compact_eq {t u : Node} (h : t.toJson.compact = u.toJson.compact) :
    t.Related Condition.SameDefinition u :=
  related_of_toJson_eq (Json.compact_injective h)

end Node

/-! ## Evaluation -/

/-- Environments in which every value that is there is whole. -/
def Environment.IsWhole (env : Environment) : Prop :=
  ∀ name, (env.lookup name).isAbsent = true ∨ (env.lookup name).isWhole = true

namespace Condition.SameDefinition

variable {c d : Condition} {env : Environment}

theorem comparableKinds_eq (h : c.SameDefinition d) :
    c.operator.comparableKinds c.literal = d.operator.comparableKinds d.literal := by
  rw [← Operator.comparableKinds_plain, h.operator, h.literal, Operator.comparableKinds_plain]

theorem alike (h : c.SameDefinition d) (outcome : c.outcome env = d.outcome env) :
    c.Alike env env d :=
  ⟨h.variableName, h.operator, h.comparableKinds_eq, by rw [h.variableName], outcome⟩

theorem outcome_eq_of_isWhole (h : c.SameDefinition d) (whole : env.IsWhole) :
    c.outcome env = d.outcome env := by
  rw [outcome, outcome, h.operator, h.variableName,
    ← Operator.outcome_plain _ _ (whole d.variableName), h.literal,
    Operator.outcome_plain _ _ (whole d.variableName)]

end Condition.SameDefinition

namespace Condition

variable {c d : Condition}

theorem outcome_eq_of_beq (h : (c == d) = true) (env : Environment) :
    c.outcome env = d.outcome env := by
  obtain ⟨name, operator, literal⟩ := beq_iff.1 h
  rw [outcome, outcome, name, operator]
  exact Operator.outcome_congr _ (BEq.refl _) literal

theorem alike_of_beq (h : (c == d) = true) (env : Environment) : c.Alike env env d :=
  alike_of_looksLike h (.inl (BEq.refl _))

theorem SameDefinition.beq_of_isRecordable (h : c.SameDefinition d)
    (hc : c.literal.isRecordable = true) (hd : d.literal.isRecordable = true) :
    (c == d) = true := by
  refine beq_iff.2 ⟨h.variableName, h.operator, ?_⟩
  have kept : (c.literal == d.literal.plain) = true :=
    h.literal ▸ BEq.symm (Value.plain_beq hc)
  exact BEq.trans kept (Value.plain_beq hd)

theorem outcome_equals_eq_matched {value literal : Value} :
    Operator.equals.outcome value literal = .matched ↔
      value.isAbsent = false ∧ (value == literal) = true := by
  have compared (h : (value == literal) = true) (there : value.isAbsent = false) :
      Operator.equals.compares value literal = true := by
    cases Value.beq_iff_equal.1 h with
    | absent reason => cases there
    | _ => rfl
  unfold Operator.outcome
  cases there : value.isAbsent with
  | true => simp
  | false =>
    cases h : value == literal with
    | true => simp [compared h there, Operator.holds, h]
    | false => cases compares : Operator.equals.compares value literal <;>
        simp [Operator.holds, h]

/-- An environment that gives the variable of a condition its literal tells the condition from all
others with the same definition. -/
theorem SameDefinition.beq_of_forall_outcome_eq (h : c.SameDefinition d)
    (outcome : ∀ env, c.outcome env = d.outcome env) : (c == d) = true := by
  by_cases equals : c.operator = .equals
  · have found := outcome ((∅ : Environment).insert c.variableName c.literal)
    rw [Condition.outcome, Condition.outcome, ← h.operator, ← h.variableName, equals,
      Environment.lookup_insert, if_pos rfl,
      outcome_equals_eq_matched.2 ⟨Operator.isAbsent_of_usable c.usable, BEq.refl _⟩] at found
    exact beq_iff.2 ⟨h.variableName, h.operator, (outcome_equals_eq_matched.1 found.symm).2⟩
  · have other : d.operator ≠ .equals := h.operator ▸ equals
    exact h.beq_of_isRecordable (Operator.isRecordable_of_usable equals c.usable)
      (Operator.isRecordable_of_usable other d.usable)

end Condition

/-! ## Trees -/

namespace Node

/-- The outcomes of all leaves of a tree, from left to right. -/
def outcomes (n : Node) (env : Environment) : List Outcome := n.leaves.map (·.2.outcome env)

theorem forall₂_of_forall_map_eq {α β γ ι : Type} {P : α → β → Prop} {f : ι → α → γ}
    {g : ι → β → γ} {xs : List α} {ys : List β} (h : Forall₂ P xs ys)
    (same : ∀ i, xs.map (f i) = ys.map (g i)) :
    Forall₂ (fun x y => P x y ∧ ∀ i, f i x = g i y) xs ys := by
  induction h with
  | nil => exact .nil
  | cons h _ ih =>
    have first (i : ι) := (List.cons.inj (same i)).1
    have others (i : ι) := (List.cons.inj (same i)).2
    exact .cons ⟨h, first⟩ (ih others)

/-- Among trees with the same definition, the equal ones have the same outcomes everywhere. -/
theorem beq_iff_forall_outcomes_eq {t u : Node} (h : t.Related Condition.SameDefinition u) :
    (t == u) = true ↔ ∀ env, t.outcomes env = u.outcomes env := by
  rw [beq_iff_related]
  constructor
  · intro equal env
    have same := equal.leaves.imp fun x y hxy => Condition.outcome_eq_of_beq hxy.2 env
    rw [outcomes, outcomes, ← List.forall₂_eq_eq_eq, List.forall₂_map_left_iff,
      List.forall₂_map_right_iff]
    exact same
  · intro same
    refine h.of_leaves ((forall₂_of_forall_map_eq h.leaves same).imp fun x y hxy => ?_)
    exact hxy.1.2.beq_of_forall_outcome_eq hxy.2

/-- How far trees with the same compact definition agree. They are evaluated in the same way
wherever no absence stands inside of a list, and everywhere if they are equal. They are equal if no
literal can tell one absence from another, and only then are the outcomes of their leaves the
same everywhere. -/
theorem agree_of_compact_eq {t u : Node} (h : t.toJson.compact = u.toJson.compact) :
    (∀ env : Environment, env.IsWhole ∨ (t == u) = true →
      t.evaluate env = u.evaluate env ∧
        ∀ rule, t.mismatches rule env = u.mismatches rule env) ∧
    ((∀ leaf ∈ t.leaves ++ u.leaves, leaf.2.literal.isRecordable = true) → (t == u) = true) ∧
    ((t == u) = true ↔ ∀ env, t.outcomes env = u.outcomes env) := by
  have same := related_of_compact_eq h
  refine ⟨fun env agrees => ?_, fun recordable => ?_, beq_iff_forall_outcomes_eq same⟩
  · have alike : t.Related (Condition.Alike env env) u := by
      rcases agrees with whole | equal
      · exact same.mono fun c d hcd => hcd.alike (hcd.outcome_eq_of_isWhole whole)
      · exact (beq_iff_related.1 equal).mono fun c d hcd => Condition.alike_of_beq hcd env
    exact ⟨alike.evaluate_eq, alike.mismatches_eq⟩
  · obtain ⟨length, pairs⟩ := List.forall₂_iff_zip.1 same.leaves
    refine beq_iff_related.2 (same.of_leaves (List.forall₂_iff_zip.2 ⟨length, fun {x y} mem => ?_⟩))
    obtain ⟨left, right⟩ := List.of_mem_zip mem
    exact (pairs mem).2.beq_of_isRecordable (recordable x (List.mem_append_left _ left))
      (recordable y (List.mem_append_right _ right))

/-- The definition of a condition that asks for a list in a list with the given items. -/
def nestedDefinition (items : List Json) : Json :=
  .object [("type", .string "condition"), ("variable", .string "x"), ("operator", .string "equals"),
    ("value", .array [.array items])]

theorem agree_of_compact_eq_spelling :
    ∃ t u, ofJson 1 .root (nestedDefinition [.number ⟨false, 1, [5, 0], none⟩, .null]) = .ok t ∧
      ofJson 1 .root (nestedDefinition [.number ⟨false, 1, [5], none⟩, .null]) = .ok u ∧
      t.toJson.compact = u.toJson.compact ∧
      (∀ env : Environment, env.IsWhole ∨ (t == u) = true →
        t.evaluate env = u.evaluate env ∧
          ∀ rule, t.mismatches rule env = u.mismatches rule env) ∧
      ((∀ leaf ∈ t.leaves ++ u.leaves, leaf.2.literal.isRecordable = true) → (t == u) = true) ∧
      ((t == u) = true ↔ ∀ env, t.outcomes env = u.outcomes env) :=
  ⟨_, _, rfl, rfl, rfl, agree_of_compact_eq rfl⟩

/-- An object in a list has the same text as a `null` in its place, but it is never equal to it. -/
theorem exists_compact_eq_evaluate_ne :
    ∃ t u env, ofJson 1 .root (nestedDefinition [.null]) = .ok t ∧
      ofJson 1 .root (nestedDefinition [.object []]) = .ok u ∧
      t.toJson.compact = u.toJson.compact ∧ t.evaluate env ≠ u.evaluate env :=
  ⟨_, _, (∅ : Environment).insert "x" (.list [.list [.absent .null]]), rfl, rfl, rfl, by decide⟩

end Node

end RuleActivation
