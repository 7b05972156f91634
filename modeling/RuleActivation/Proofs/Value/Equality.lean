import Mathlib.Data.List.Forall2
import RuleActivation.Evaluation.Outcome
import RuleActivation.Proofs.Decimal.Rational

/-!
# Equality of values

Equality of values ignores the spelling of numbers and nothing else. It is an equivalence, and
nothing that evaluation asks of a value or of a literal tells equal values apart.

## Main definitions

* `Value.Equal`: the equal values, kind by kind

## Main results

* `Value.beq_iff_equal`: `==` decides it, and it is an equivalence
* `Operator.outcome_congr`: equal values have the same outcome with equal literals
-/

namespace RuleActivation

/-! ## An equivalence -/

namespace Value

/-- The equal values, kind by kind. -/
inductive Equal : Value → Value → Prop where
  | bool (b : Bool) : Equal (.bool b) (.bool b)
  | number {d e : Decimal} (h : (d == e) = true) : Equal (.number d) (.number e)
  | text (s : String) : Equal (.text s) (.text s)
  | list {as bs : List Value} (h : sameItems as bs = true) : Equal (.list as) (.list bs)
  | absent (reason : Absence) : Equal (.absent reason) (.absent reason)

theorem beq_iff_equal {a b : Value} : (a == b) = true ↔ Equal a b := by
  constructor
  · intro h
    match a, b with
    | .bool x, .bool y =>
      obtain rfl : x = y := eq_of_beq h
      exact .bool x
    | .number _, .number _ => exact .number h
    | .text s, .text t =>
      obtain rfl : s = t := eq_of_beq h
      exact .text s
    | .list _, .list _ => exact .list h
    | .absent r, .absent q =>
      obtain rfl : r = q := eq_of_beq h
      exact .absent r
  · intro h
    cases h with
    | bool b => exact BEq.refl b
    | number h => exact h
    | text s => exact BEq.refl s
    | list h => exact h
    | absent reason => exact BEq.refl reason

theorem sameItems_cons {a b : Value} {as bs : List Value} :
    sameItems (a :: as) (b :: bs) = true ↔ (a == b) = true ∧ sameItems as bs = true := by
  rw [sameItems, Bool.and_eq_true]
  rfl

theorem sameItems_iff_forall₂ {as bs : List Value} :
    sameItems as bs = true ↔ List.Forall₂ (fun a b => (a == b) = true) as bs := by
  induction as generalizing bs with
  | nil => cases bs <;> simp [sameItems]
  | cons a as ih =>
    cases bs with
    | nil => simp [sameItems]
    | cons b bs => rw [sameItems_cons, List.forall₂_cons, ih]

mutual

theorem beq_refl (v : Value) : (v == v) = true := by
  match v with
  | .bool b => exact beq_iff_equal.2 (.bool b)
  | .text s => exact beq_iff_equal.2 (.text s)
  | .absent reason => exact beq_iff_equal.2 (.absent reason)
  | .number d => exact BEq.refl d
  | .list items => exact sameItems_refl items

theorem sameItems_refl (items : List Value) : sameItems items items = true := by
  match items with
  | [] => rfl
  | v :: vs => exact sameItems_cons.2 ⟨beq_refl v, sameItems_refl vs⟩

end

mutual

theorem beq_symm {a b : Value} (h : (a == b) = true) : (b == a) = true := by
  cases beq_iff_equal.1 h with
  | bool _ | text _ | absent _ => exact h
  | number h => exact beq_iff_equal.2 (.number (BEq.symm h))
  | list h => exact sameItems_symm h

theorem sameItems_symm {as bs : List Value} (h : sameItems as bs = true) :
    sameItems bs as = true := by
  match as, bs with
  | [], [] => rfl
  | a :: as, b :: bs =>
    obtain ⟨first, others⟩ := sameItems_cons.1 h
    exact sameItems_cons.2 ⟨beq_symm first, sameItems_symm others⟩

end

mutual

theorem beq_trans {a b c : Value} (h : (a == b) = true) (k : (b == c) = true) :
    (a == c) = true := by
  cases beq_iff_equal.1 h with
  | bool _ | text _ | absent _ => exact k
  | number h =>
    cases beq_iff_equal.1 k with
    | number k => exact beq_iff_equal.2 (.number (BEq.trans h k))
  | list h =>
    cases beq_iff_equal.1 k with
    | list k => exact sameItems_trans h k

theorem sameItems_trans {as bs cs : List Value} (h : sameItems as bs = true)
    (k : sameItems bs cs = true) : sameItems as cs = true := by
  match as, bs, cs with
  | [], [], [] => rfl
  | a :: as, b :: bs, c :: cs =>
    obtain ⟨first, others⟩ := sameItems_cons.1 h
    obtain ⟨first', others'⟩ := sameItems_cons.1 k
    exact sameItems_cons.2 ⟨beq_trans first first', sameItems_trans others others'⟩

end

instance : EquivBEq Value where
  rfl := beq_refl _
  symm := beq_symm
  trans := beq_trans

/-! ## What evaluation asks -/

variable {a b : Value}

theorem kind_congr (h : (a == b) = true) : a.kind = b.kind := by
  cases beq_iff_equal.1 h <;> rfl

theorem isAbsent_congr (h : (a == b) = true) : a.isAbsent = b.isAbsent := by
  cases beq_iff_equal.1 h <;> rfl

theorem contains_congr (needle : Value) {as bs : List Value} (h : sameItems as bs = true) :
    as.contains needle = bs.contains needle := by
  match as, bs with
  | [], [] => rfl
  | a :: as, b :: bs =>
    obtain ⟨first, others⟩ := sameItems_cons.1 h
    rw [List.contains_cons, List.contains_cons, BEq.congr_right first,
      contains_congr needle others]

theorem contains_congr_needle (items : List Value) (h : (a == b) = true) :
    items.contains a = items.contains b := by
  induction items with
  | nil => rfl
  | cons item items ih =>
    rw [List.contains_cons, List.contains_cons, ih, BEq.congr_left h]

end Value

namespace Operator

variable (op : Operator) {value value' literal literal' : Value}

theorem comparableKinds_congr (h : (literal == literal') = true) :
    op.comparableKinds literal = op.comparableKinds literal' := by
  cases Value.beq_iff_equal.1 h <;> cases op <;> rfl

theorem compares_congr (hv : (value == value') = true) (hl : (literal == literal') = true) :
    op.compares value literal = op.compares value' literal' := by
  rw [compares, compares, comparableKinds_congr op hl, Value.kind_congr hv]

theorem holds_congr (hv : (value == value') = true) (hl : (literal == literal') = true) :
    op.holds value literal = op.holds value' literal' := by
  cases op with
  | equals =>
    calc (value == literal)
        = (value' == literal) := BEq.congr_left hv
      _ = (value' == literal') := BEq.congr_right hl
  | contains =>
    cases Value.beq_iff_equal.1 hv with
    | list h =>
      rw [holds, holds, Value.contains_congr literal h, Value.contains_congr_needle _ hl]
    | _ => cases Value.beq_iff_equal.1 hl <;> rfl
  | greaterThan =>
    cases Value.beq_iff_equal.1 hv with
    | number h =>
      cases Value.beq_iff_equal.1 hl with
      | number k => exact Decimal.lt_congr k h
      | _ => rfl
    | _ => rfl
  | lessOrEqual =>
    cases Value.beq_iff_equal.1 hv with
    | number h =>
      cases Value.beq_iff_equal.1 hl with
      | number k => exact congrArg (!·) (Decimal.lt_congr k h)
      | _ => rfl
    | _ => rfl
  | inList =>
    cases Value.beq_iff_equal.1 hl with
    | list h => rw [holds, holds, Value.contains_congr value h, Value.contains_congr_needle _ hv]
    | _ => rfl

theorem demandsFalse_congr (h : (literal == literal') = true) :
    op.demandsFalse literal = op.demandsFalse literal' := by
  rw [demandsFalse, demandsFalse, BEq.congr_left h]

/-- Equal values have the same outcome with equal literals. -/
theorem outcome_congr (hv : (value == value') = true) (hl : (literal == literal') = true) :
    op.outcome value literal = op.outcome value' literal' := by
  rw [outcome, outcome, Value.isAbsent_congr hv, demandsFalse_congr op hl,
    compares_congr op hv hl, holds_congr op hv hl]

end Operator

end RuleActivation
