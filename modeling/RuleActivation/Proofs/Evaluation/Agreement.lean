import Mathlib.Data.List.Forall2
import RuleActivation.Evaluation.Basic
import RuleActivation.Proofs.Value.Equality

/-!
# Trees that agree

Two trees of the same shape are evaluated in the same way, perhaps in two environments, if their
leaves look the same one by one: evaluation takes the same way through both of them, and finds the
same mismatches.

## Main definitions

* `Node.Related`: trees of the same shape, with leaves that are related
* `Value.LooksLike`: values that no condition tells apart
* `Condition.Alike`: conditions that look the same to evaluation

## Main results

* `Node.Related.evaluate_eq`, `Node.Related.mismatches_eq`: trees with leaves that look the same
* `Node.Related.of_leaves`: for trees of the same shape only the leaves count
* `Node.beq_iff_related`: equality of trees
-/

namespace RuleActivation

open List (Forall₂)

/-! ## Trees of the same shape -/

mutual

/-- Trees of the same shape, with leaves that are related. -/
inductive Node.Related (R : Condition → Condition → Prop) : Node → Node → Prop where
  | leaf {c d : Condition} (h : R c d) : Node.Related R (.leaf c) (.leaf d)
  | junction (k : Connective) {cs ds : Children} (h : Children.Related R cs ds) :
    Node.Related R (.junction k cs) (.junction k ds)

/-- Lists of children of the same shapes, with leaves that are related. -/
inductive Children.Related (R : Condition → Condition → Prop) : Children → Children → Prop where
  | one {m n : Node} (h : Node.Related R m n) : Children.Related R (.one m) (.one n)
  | more {m n : Node} {ms ns : Children} (h : Node.Related R m n)
    (hs : Children.Related R ms ns) : Children.Related R (.more m ms) (.more n ns)

end

namespace Node

variable {R S : Condition → Condition → Prop}

mutual

theorem related_refl (n : Node) : Related Eq n n := by
  match n with
  | .leaf c => exact .leaf rfl
  | .junction k cs => exact .junction k (childrenRelated_refl cs)

theorem childrenRelated_refl (cs : Children) : Children.Related Eq cs cs := by
  match cs with
  | .one n => exact .one (related_refl n)
  | .more n rest => exact .more (related_refl n) (childrenRelated_refl rest)

end

mutual

theorem Related.mono (imp : ∀ c d, R c d → S c d) {m n : Node} (h : Related R m n) :
    Related S m n := by
  cases h with
  | leaf h => exact .leaf (imp _ _ h)
  | junction k h => exact .junction k (Related.mono_children imp h)

theorem Related.mono_children (imp : ∀ c d, R c d → S c d) {cs ds : Children}
    (h : Children.Related R cs ds) : Children.Related S cs ds := by
  cases h with
  | one h => exact .one (Related.mono imp h)
  | more h hs => exact .more (Related.mono imp h) (Related.mono_children imp hs)

end

/-! ## Leaves -/

mutual

/-- Related trees have as many leaves, at the same positions. -/
theorem Related.leavesAt {m n : Node} (h : Related R m n) (p : Position) :
    Forall₂ (fun x y => x.1 = y.1 ∧ R x.2 y.2) (m.leavesAt p) (n.leavesAt p) := by
  cases h with
  | leaf h => exact .cons ⟨rfl, h⟩ .nil
  | junction k h => exact Related.childLeaves h p 0

theorem Related.childLeaves {cs ds : Children} (h : Children.Related R cs ds) (p : Position)
    (index : Nat) : Forall₂ (fun x y => x.1 = y.1 ∧ R x.2 y.2) (Node.childLeaves p index cs)
      (Node.childLeaves p index ds) := by
  cases h with
  | one h => exact Related.leavesAt h _
  | more h hs => exact List.rel_append (Related.leavesAt h _) (Related.childLeaves hs p _)

end

/-- Trees of the same shape have related leaves at the same positions. -/
theorem Related.leaves {m n : Node} (h : Related R m n) :
    Forall₂ (fun x y => x.1 = y.1 ∧ R x.2 y.2) m.leaves n.leaves := h.leavesAt .root

theorem forall₂_append_split {α β : Type} {P : α → β → Prop} {xs xs' : List α} {ys ys' : List β}
    (length : xs.length = ys.length) (h : Forall₂ P (xs ++ xs') (ys ++ ys')) :
    Forall₂ P xs ys ∧ Forall₂ P xs' ys' := by
  have before := List.forall₂_take xs.length h
  have after := List.forall₂_drop xs.length h
  rw [List.take_left, length, List.take_left] at before
  rw [List.drop_left, length, List.drop_left] at after
  exact ⟨before, after⟩

mutual

theorem Related.of_leavesAt {m n : Node} (h : Related S m n) {p : Position}
    (leaves : Forall₂ (fun x y => R x.2 y.2) (m.leavesAt p) (n.leavesAt p)) : Related R m n := by
  cases h with
  | leaf _ =>
    cases leaves with
    | cons h _ => exact .leaf h
  | junction k h => exact .junction k (Related.of_childLeaves h leaves)

theorem Related.of_childLeaves {cs ds : Children} (h : Children.Related S cs ds) {p : Position}
    {index : Nat} (leaves : Forall₂ (fun x y => R x.2 y.2) (Node.childLeaves p index cs)
      (Node.childLeaves p index ds)) : Children.Related R cs ds := by
  cases h with
  | one h => exact .one (Related.of_leavesAt h leaves)
  | more h hs =>
    obtain ⟨first, others⟩ := forall₂_append_split (h.leavesAt _).length_eq leaves
    exact .more (Related.of_leavesAt h first) (Related.of_childLeaves hs others)

end

/-- For trees of the same shape only the leaves count. -/
theorem Related.of_leaves {m n : Node} (h : Related S m n)
    (leaves : Forall₂ (fun x y => R x.2 y.2) m.leaves n.leaves) : Related R m n :=
  h.of_leavesAt leaves

mutual

theorem same_iff_related {m n : Node} : m.same n = true ↔ Related (· == ·) m n := by
  match m, n with
  | .leaf c, .leaf d => exact ⟨fun h => .leaf h, fun h => by cases h with | leaf h => exact h⟩
  | .junction k cs, .junction l ds =>
    rw [same, Bool.and_eq_true, sameChildren_iff_related]
    constructor
    · rintro ⟨hk, h⟩
      obtain rfl : k = l := eq_of_beq hk
      exact .junction k h
    · intro h
      cases h with
      | junction k h => exact ⟨BEq.refl k, h⟩
  | .leaf _, .junction _ _ | .junction _ _, .leaf _ => exact ⟨nofun, nofun⟩

theorem sameChildren_iff_related {cs ds : Children} :
    sameChildren cs ds = true ↔ Children.Related (· == ·) cs ds := by
  match cs, ds with
  | .one m, .one n =>
    rw [sameChildren, same_iff_related]
    exact ⟨.one, fun h => by cases h with | one h => exact h⟩
  | .more m ms, .more n ns =>
    rw [sameChildren, Bool.and_eq_true, same_iff_related, sameChildren_iff_related]
    exact ⟨fun h => .more h.1 h.2, fun h => by cases h with | more h hs => exact ⟨h, hs⟩⟩
  | .one _, .more _ _ | .more _ _, .one _ => exact ⟨nofun, nofun⟩

end

/-- Equal trees are trees of the same shape with equal leaves. -/
theorem beq_iff_related {m n : Node} : (m == n) = true ↔ Related (· == ·) m n := same_iff_related

end Node

/-! ## Values that look the same -/

/-- Values that no condition tells apart: equal values, and any two absent ones. -/
def Value.LooksLike (v w : Value) : Prop :=
  (v == w) = true ∨ (v.isAbsent = true ∧ w.isAbsent = true)

instance (v w : Value) : Decidable (v.LooksLike w) :=
  inferInstanceAs (Decidable (_ ∨ _))

theorem Value.kind_eq_of_isAbsent {v : Value} (h : v.isAbsent = true) : v.kind = .absent := by
  cases v with
  | absent reason => rfl
  | _ => cases h

namespace Value.LooksLike

variable {v w : Value}

theorem kind_eq (h : v.LooksLike w) : v.kind = w.kind := by
  rcases h with equal | ⟨hv, hw⟩
  · exact kind_congr equal
  · rw [kind_eq_of_isAbsent hv, kind_eq_of_isAbsent hw]

/-- Values that look the same have the same outcome with equal literals. -/
theorem outcome_eq (h : v.LooksLike w) (op : Operator) {literal literal' : Value}
    (hl : (literal == literal') = true) : op.outcome v literal = op.outcome w literal' := by
  rcases h with equal | ⟨hv, hw⟩
  · exact Operator.outcome_congr op equal hl
  · rw [Operator.outcome, Operator.outcome, if_pos hv, if_pos hw,
      Operator.demandsFalse_congr op hl]

end Value.LooksLike

/-! ## Evaluation -/

/-- Conditions that look the same to evaluation, each in its environment. -/
structure Condition.Alike (env env' : Environment) (c d : Condition) : Prop where
  variableName : c.variableName = d.variableName
  operator : c.operator = d.operator
  expected : c.operator.comparableKinds c.literal = d.operator.comparableKinds d.literal
  observed : (env.lookup c.variableName).kind = (env'.lookup d.variableName).kind
  outcome : c.outcome env = d.outcome env'

namespace Condition

variable {c d : Condition}

theorem beq_iff : (c == d) = true ↔
    c.variableName = d.variableName ∧ c.operator = d.operator ∧
      (c.literal == d.literal) = true := by
  change (c.variableName == d.variableName && c.operator == d.operator &&
    c.literal == d.literal) = true ↔ _
  rw [Bool.and_eq_true, Bool.and_eq_true, beq_iff_eq, beq_iff_eq, and_assoc]

/-- Equal conditions look the same to evaluation where their variable does. -/
theorem alike_of_looksLike {env env' : Environment} (h : (c == d) = true)
    (seen : (env.lookup c.variableName).LooksLike (env'.lookup c.variableName)) :
    c.Alike env env' d := by
  obtain ⟨name, operator, literal⟩ := beq_iff.1 h
  refine ⟨name, operator, ?_, ?_, ?_⟩
  · rw [operator, Operator.comparableKinds_congr _ literal]
  · rw [← name]
    exact seen.kind_eq
  · rw [outcome, outcome, ← operator, ← name]
    exact seen.outcome_eq _ literal

end Condition

/-- Visits that look the same, each in its environment. -/
structure Visit.Alike (env env' : Environment) (v w : Visit) : Prop where
  position : v.position = w.position
  condition : v.condition.Alike env env' w.condition
  outcome : v.outcome = w.outcome

variable {env env' : Environment}

theorem Visit.Alike.mismatch?_eq {v w : Visit} (h : v.Alike env env' w) (rule : Option Int64) :
    v.mismatch? rule env = w.mismatch? rule env' := by
  rw [mismatch?, mismatch?, h.outcome, h.position, h.condition.observed, h.condition.expected,
    h.condition.operator, h.condition.variableName]

theorem Visit.filterMap_mismatch?_eq {vs ws : List Visit}
    (h : Forall₂ (Visit.Alike env env') vs ws) (rule : Option Int64) :
    vs.filterMap (·.mismatch? rule env) = ws.filterMap (·.mismatch? rule env') := by
  induction h with
  | nil => rfl
  | cons h _ ih => rw [List.filterMap_cons, List.filterMap_cons, h.mismatch?_eq rule, ih]

namespace Node

mutual

theorem Related.visitAt {m n : Node} (h : Related (Condition.Alike env env') m n)
    (p : Position) : (m.visitAt env p).1 = (n.visitAt env' p).1 ∧
      Forall₂ (Visit.Alike env env') (m.visitAt env p).2 (n.visitAt env' p).2 := by
  cases h with
  | leaf h =>
    exact ⟨congrArg Outcome.satisfied h.outcome, .cons ⟨rfl, h, h.outcome⟩ .nil⟩
  | junction k h => exact Related.visitChildren h p k 0

theorem Related.visitChildren {cs ds : Children}
    (h : Children.Related (Condition.Alike env env') cs ds) (p : Position) (k : Connective)
    (index : Nat) :
    (Node.visitChildren env p k index cs).1 = (Node.visitChildren env' p k index ds).1 ∧
      Forall₂ (Visit.Alike env env') (Node.visitChildren env p k index cs).2
        (Node.visitChildren env' p k index ds).2 := by
  cases h with
  | one h => exact Related.visitAt h _
  | more h hs =>
    obtain ⟨truth, visits⟩ := Related.visitAt h (p.child index)
    obtain ⟨truths, later⟩ := Related.visitChildren hs p k (index + 1)
    rw [visitChildren_more, visitChildren_more, truth]
    split
    · exact ⟨truth, visits⟩
    · exact ⟨truths, List.rel_append visits later⟩

end

variable {m n : Node}

/-- Trees with leaves that look the same have the same truth. -/
theorem Related.evaluate_eq (h : Related (Condition.Alike env env') m n) :
    m.evaluate env = n.evaluate env' := (h.visitAt .root).1

/-- Trees with leaves that look the same have the same mismatches. -/
theorem Related.mismatches_eq (h : Related (Condition.Alike env env') m n)
    (rule : Option Int64) : m.mismatches rule env = n.mismatches rule env' :=
  Visit.filterMap_mismatch?_eq (h.visitAt .root).2 rule

end Node

end RuleActivation
