import Mathlib.Algebra.Order.Field.Basic
import Mathlib.Algebra.Order.Ring.Rat
import Mathlib.Data.Rat.Cast.Order
import RuleActivation.Decimal.Reading
import RuleActivation.Proofs.Json.Number

/-!
# The numbers that decimals stand for

Decimals are compared as the rational numbers that they stand for, so that `==` is an equivalence
and the order does not tell equal decimals apart. The reduced decimal stands for the same number,
and it is read back from its token.

## Main definitions

* `Decimal.toRat`: the rational number of a decimal

## Main results

* `beq_iff_toRat_eq`, `lt_iff_toRat_lt`: the comparisons as statements about rational numbers
* `reduced_beq`: reducing does not change the number
* `ofNumber?_toNumber`, `ofNumber?_toNumber_reduced`: reading the token of a decimal
-/

namespace RuleActivation.Decimal

/-! ## The number of a decimal -/

theorem tenPow_eq (n : Nat) : tenPow n = 10 ^ n := rfl

theorem tenPow_succ (n : Nat) : tenPow (n + 1) = 10 * tenPow n := by
  rw [tenPow_eq, tenPow_eq, Nat.pow_succ, Nat.mul_comm]

theorem tenPow_pos (n : Nat) : 0 < tenPow n := Nat.pow_pos (by decide)

/-- The rational number that a decimal stands for. -/
def toRat (d : Decimal) : ℚ := d.coefficient / tenPow d.scale

variable {a b : Decimal}

theorem beq_iff_toRat_eq : (a == b) = true ↔ a.toRat = b.toRat := by
  have ha : ((tenPow a.scale : ℕ) : ℚ) ≠ 0 := Nat.cast_ne_zero.2 (tenPow_pos _).ne'
  have hb : ((tenPow b.scale : ℕ) : ℚ) ≠ 0 := Nat.cast_ne_zero.2 (tenPow_pos _).ne'
  rw [beq_iff, toRat, toRat, div_eq_div_iff ha hb]
  exact_mod_cast Iff.rfl

theorem lt_iff_toRat_lt : a.lt b = true ↔ a.toRat < b.toRat := by
  have ha : (0 : ℚ) < (tenPow a.scale : ℕ) := Nat.cast_pos.2 (tenPow_pos _)
  have hb : (0 : ℚ) < (tenPow b.scale : ℕ) := Nat.cast_pos.2 (tenPow_pos _)
  rw [lt_iff, toRat, toRat, div_lt_div_iff₀ ha hb]
  exact_mod_cast Iff.rfl

instance : EquivBEq Decimal where
  rfl := beq_iff_toRat_eq.2 rfl
  symm h := beq_iff_toRat_eq.2 (beq_iff_toRat_eq.1 h).symm
  trans h k := beq_iff_toRat_eq.2 ((beq_iff_toRat_eq.1 h).trans (beq_iff_toRat_eq.1 k))

theorem lt_congr {a' b' : Decimal} (ha : (a == a') = true) (hb : (b == b') = true) :
    a.lt b = a'.lt b' := by
  rw [Bool.eq_iff_iff, lt_iff_toRat_lt, lt_iff_toRat_lt, beq_iff_toRat_eq.1 ha,
    beq_iff_toRat_eq.1 hb]

/-! ## The reduced decimal -/

theorem stripZeros_mul (magnitude scale : Nat) :
    (stripZeros magnitude scale).1 * tenPow scale =
      magnitude * tenPow (stripZeros magnitude scale).2 := by
  induction scale generalizing magnitude with
  | zero => rfl
  | succ scale ih =>
    simp only [stripZeros]
    split
    · have whole : magnitude = 10 * (magnitude / 10) := by omega
      calc (stripZeros (magnitude / 10) scale).1 * tenPow (scale + 1)
          = 10 * ((stripZeros (magnitude / 10) scale).1 * tenPow scale) := by
            rw [tenPow_succ, Nat.mul_left_comm]
        _ = 10 * (magnitude / 10) * tenPow (stripZeros (magnitude / 10) scale).2 := by
            rw [ih, Nat.mul_assoc]
        _ = magnitude * tenPow (stripZeros (magnitude / 10) scale).2 := by rw [← whole]
    · rfl

theorem stripZeros_magnitude_eq_zero {magnitude scale : Nat} :
    (stripZeros magnitude scale).1 = 0 ↔ magnitude = 0 := by
  have h := stripZeros_mul magnitude scale
  constructor
  · intro zero
    rw [zero, Nat.zero_mul] at h
    exact (Nat.mul_eq_zero.1 h.symm).resolve_right (tenPow_pos _).ne'
  · intro zero
    rw [zero, Nat.zero_mul] at h
    rw [zero]
    exact (Nat.mul_eq_zero.1 h).resolve_right (tenPow_pos _).ne'

/-- Reducing does not change the number. -/
theorem reduced_beq (d : Decimal) : (d.reduced == d) = true := by
  have h : (d.reduced.magnitude : Int) * tenPow d.scale = d.magnitude * tenPow d.reduced.scale := by
    exact_mod_cast stripZeros_mul d.magnitude d.scale
  rw [beq_iff, coefficient, coefficient]
  by_cases zero : d.magnitude = 0
  · have : d.reduced.magnitude = 0 := stripZeros_magnitude_eq_zero.2 zero
    simp [zero, this]
  · have : d.reduced.negative = d.negative := by simp [reduced, zero]
    rw [this]
    split
    · rw [Int.neg_mul, Int.neg_mul, h]
    · exact h

/-! ## Reading the token of a decimal -/

theorem le_toNat (ds : List Digit) (start : Nat) : start ≤ Digit.toNat ds start := by
  induction ds generalizing start with
  | nil => exact Nat.le_refl _
  | cons d ds ih =>
    rw [Digit.toNat_cons]
    exact Nat.le_trans (by omega) (ih _)

/-- Digits within the limits are all taken. -/
theorem takeFraction_eq {ds : List Digit} {magnitude scale : Nat}
    (fits : Digit.toNat ds magnitude < limit) (room : scale + ds.length ≤ maxScale) :
    takeFraction magnitude scale ds = some (Digit.toNat ds magnitude, scale + ds.length) := by
  induction ds generalizing magnitude scale with
  | nil => rfl
  | cons d ds ih =>
    rw [Digit.toNat_cons] at fits
    rw [List.length_cons] at room
    have first : 10 * magnitude + d.val < limit ∧ scale < maxScale :=
      ⟨Nat.lt_of_le_of_lt (le_toNat ds _) fits, by omega⟩
    rw [takeFraction, if_pos first, ih fits (by omega), Digit.toNat_cons, List.length_cons]
    congr 2
    omega

theorem toNat_ofNat (width n start : Nat) :
    Digit.toNat (Digit.ofNat width n) start = start * tenPow width + n % tenPow width := by
  induction width generalizing n with
  | zero => simp [Digit.ofNat, tenPow, Nat.mod_one]
  | succ width ih =>
    rw [Digit.ofNat, Digit.toNat_append, ih, Digit.toNat_cons, Digit.toNat_nil, Fin.val_ofNat,
      tenPow_succ, Nat.mod_mul, Nat.mul_left_comm start]
    omega

/-- The token of a decimal is read as this decimal, but a zero loses its sign. -/
theorem ofNumber?_toNumber (d : Decimal) :
    ofNumber? d.toNumber = some { d with negative := d.negative && d.magnitude != 0 } := by
  have spelled : Digit.toNat d.toNumber.fraction d.toNumber.whole = d.magnitude := by
    rw [toNumber, toNat_ofNat, Nat.mod_mod, Nat.mul_comm]
    exact Nat.div_add_mod _ _
  have length : d.toNumber.fraction.length = d.scale := Digit.length_ofNat _ _
  have taken : takeFraction d.toNumber.whole 0 d.toNumber.fraction =
      some (d.magnitude, d.scale) := by
    rw [takeFraction_eq (by rw [spelled]; exact d.magnitude_lt)
      (by rw [length, Nat.zero_add]; exact d.scale_le), spelled, length, Nat.zero_add]
  have small : d.toNumber.whole < limit :=
    Nat.lt_of_le_of_lt (Nat.div_le_self _ _) d.magnitude_lt
  have limits : d.magnitude < limit ∧ d.scale ≤ maxScale := ⟨d.magnitude_lt, d.scale_le⟩
  rw [ofNumber?, if_pos small, taken]
  simp [toNumber, ofParts?, limits]

/-- The token of a reduced decimal is read as this decimal. -/
theorem ofNumber?_toNumber_reduced (d : Decimal) :
    ofNumber? d.reduced.toNumber = some d.reduced := by
  have sign : (d.reduced.negative && d.reduced.magnitude != 0) = d.reduced.negative := by
    by_cases zero : d.magnitude = 0
    · simp [reduced, zero]
    · have : d.reduced.magnitude ≠ 0 := mt stripZeros_magnitude_eq_zero.1 zero
      simp [this]
  rw [ofNumber?_toNumber, sign]

end RuleActivation.Decimal
