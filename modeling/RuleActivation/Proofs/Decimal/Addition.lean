import Mathlib.Algebra.Order.Group.Unbundled.Abs
import Mathlib.Tactic.FieldSimp
import Mathlib.Tactic.Linarith
import Mathlib.Tactic.Ring
import RuleActivation.Proofs.Decimal.Rational

/-!
# Neighbours of a decimal

The sum of a decimal and an integer is off by a half at most, since rounding gives up one fraction
digit and no digit before the point. One more than a decimal is therefore larger and one less is
smaller, and only the largest decimal has no larger one.

## Main results

* `abs_sub_le_of_addInt?`: the error of a sum
* `lt_of_addInt?_one`, `lt_of_addInt?_neg_one`: one more and one less
* `toRat_le_of_addInt?_one_eq_none`: without one more there is nothing larger
-/

namespace RuleActivation.Decimal

variable {d r : Decimal} {k : Int}

/-! ## Bounds -/

theorem natAbs_coefficient (d : Decimal) : d.coefficient.natAbs = d.magnitude := by
  rw [coefficient]
  split <;> simp

theorem cast_tenPow_pos (n : Nat) : (0 : ℚ) < (tenPow n : ℕ) := Nat.cast_pos.2 (tenPow_pos n)

/-- No decimal exceeds the largest magnitude. -/
theorem toRat_le (d : Decimal) : d.toRat ≤ (limit - 1 : ℕ) := by
  have scaled : (1 : ℚ) ≤ (tenPow d.scale : ℕ) := by exact_mod_cast tenPow_pos d.scale
  have bounded : (d.coefficient : ℚ) ≤ (limit - 1 : ℕ) := by
    have := natAbs_coefficient d
    have := d.magnitude_lt
    have : d.coefficient ≤ (limit - 1 : ℕ) := by omega
    exact_mod_cast this
  rw [toRat, div_le_iff₀ (cast_tenPow_pos _)]
  nlinarith [Nat.cast_nonneg (α := ℚ) (limit - 1)]

theorem tenPow_scale_le (d : Decimal) : tenPow d.scale ≤ tenPow maxScale :=
  Nat.pow_le_pow_right (by decide) d.scale_le

/-! ## Making decimals -/

theorem of_make?_eq_some {coefficient : Int} {scale : Nat} (h : make? coefficient scale = some r) :
    r.coefficient = coefficient ∧ r.scale = scale := by
  rw [make?, ofParts?] at h
  split at h
  · cases h
    refine ⟨?_, rfl⟩
    rw [Decimal.coefficient]
    simp only [decide_eq_true_eq]
    split <;> omega
  · cases h

theorem make?_eq_none_iff {coefficient : Int} {scale : Nat} (fits : scale ≤ maxScale) :
    make? coefficient scale = none ↔ limit ≤ coefficient.natAbs := by
  rw [make?, ofParts?]
  split
  · rename_i inside
    exact iff_of_false (Option.some_ne_none _) (Nat.not_le.2 inside.1)
  · rename_i outside
    exact iff_of_true rfl (Nat.not_lt.1 fun h => outside ⟨h, fits⟩)

/-! ## Rounding -/

/-- Rounding to tens is off by five at most. -/
theorem abs_ten_mul_roundTenth_sub_le (n : Int) : |10 * roundTenth n - n| ≤ 5 := by
  rw [abs_le, roundTenth]
  split <;> split <;> omega

theorem natAbs_roundTenth_le (n : Int) : (roundTenth n).natAbs ≤ n.natAbs / 10 + 1 := by
  rw [roundTenth]
  split <;> split <;> omega

/-- A decimal that has given up one fraction digit is off by a half at most. -/
theorem abs_sub_le_of_roundTenth {n : Int} {scale : Nat}
    (coefficient : r.coefficient = roundTenth n) (unit : scale = r.scale + 1) :
    |r.toRat - n / (tenPow scale : ℕ)| ≤ 1 / 2 := by
  have digit : ((tenPow scale : ℕ) : ℚ) = 10 * (tenPow r.scale : ℕ) := by
    rw [unit, tenPow_succ, Nat.cast_mul, Nat.cast_ofNat]
  have one : (1 : ℚ) ≤ (tenPow r.scale : ℕ) := by exact_mod_cast tenPow_pos r.scale
  have error : r.toRat - n / (tenPow scale : ℕ) =
      ((10 * roundTenth n - n : Int) : ℚ) / (10 * (tenPow r.scale : ℕ)) := by
    have := (cast_tenPow_pos r.scale).ne'
    rw [toRat, coefficient, digit]
    push_cast
    field_simp
  have small : ((|10 * roundTenth n - n| : Int) : ℚ) ≤ 5 := by
    exact_mod_cast abs_ten_mul_roundTenth_sub_le n
  have positive : (0 : ℚ) < 10 * (tenPow r.scale : ℕ) := by linarith
  rw [error, abs_div, abs_of_pos positive, ← Int.cast_abs, div_le_iff₀ positive]
  linarith

/-! ## Sums -/

theorem toRat_add_int (d : Decimal) (k : Int) :
    d.toRat + k = ((d.coefficient + k * tenPow d.scale : Int) : ℚ) / (tenPow d.scale : ℕ) := by
  have := (cast_tenPow_pos d.scale).ne'
  rw [toRat]
  push_cast
  field_simp

/-- A sum is off by a half at most. -/
theorem abs_sub_le_of_addInt? (h : d.addInt? k = some r) : |r.toRat - (d.toRat + k)| ≤ 1 / 2 := by
  have noError (same : r.toRat = d.toRat + k) : |r.toRat - (d.toRat + k)| ≤ 1 / 2 := by
    rw [same, sub_self, abs_zero]
    norm_num
  rw [addInt?] at h
  split at h
  · -- a zero has no digits that could be in the way
    rename_i zero
    obtain ⟨coefficient, scale⟩ := of_make?_eq_some h
    have nothing : d.coefficient = 0 := by
      rw [← Int.natAbs_eq_zero, natAbs_coefficient, zero]
    apply noError
    simp [toRat, coefficient, scale, nothing, tenPow_eq]
  · dsimp only at h
    split at h
    · rename_i s made
      obtain rfl := Option.some.inj h
      obtain ⟨coefficient, scale⟩ := of_make?_eq_some made
      apply noError
      rw [toRat_add_int, toRat, coefficient, scale]
    · split at h
      · cases h
      · rename_i fraction
        obtain ⟨coefficient, scale⟩ := of_make?_eq_some h
        rw [toRat_add_int]
        exact abs_sub_le_of_roundTenth coefficient (by omega)

/-- One more than a decimal is larger. -/
theorem lt_of_addInt?_one (h : d.addInt? 1 = some r) : d.toRat < r.toRat := by
  have := (abs_le.1 (abs_sub_le_of_addInt? h)).1
  push_cast at this
  linarith

/-- One less than a decimal is smaller. -/
theorem lt_of_addInt?_neg_one (h : d.addInt? (-1) = some r) : r.toRat < d.toRat := by
  have := (abs_le.1 (abs_sub_le_of_addInt? h)).2
  push_cast at this
  linarith

/-- A decimal without one more is the largest. -/
theorem toRat_le_of_addInt?_one_eq_none (h : d.addInt? 1 = none) (e : Decimal) :
    e.toRat ≤ d.toRat := by
  have bounded := natAbs_coefficient d ▸ d.magnitude_lt
  rw [addInt?] at h
  split at h
  · exact absurd h (by decide)
  · dsimp only at h
    split at h
    · cases h
    · rename_i overflow
      rw [make?_eq_none_iff d.scale_le] at overflow
      split at h
      · -- without a fraction the coefficient is the largest magnitude
        rename_i whole
        have largest : d.coefficient = (limit - 1 : ℕ) := by
          rw [whole] at overflow
          simp only [show tenPow 0 = 1 from rfl, limit] at overflow bounded ⊢
          omega
        have same : d.toRat = (limit - 1 : ℕ) := by
          rw [toRat, largest, whole, tenPow_eq]
          simp
        exact same ▸ toRat_le e
      · -- a tenth of the sum fits
        rw [make?_eq_none_iff (Nat.le_trans (Nat.sub_le _ _) d.scale_le)] at h
        have tenth := natAbs_roundTenth_le (d.coefficient + 1 * tenPow d.scale)
        have scaled := tenPow_scale_le d
        simp only [show tenPow maxScale = 10000000000000000000000000000 from rfl] at scaled
        simp only [limit] at h bounded
        omega

end RuleActivation.Decimal
