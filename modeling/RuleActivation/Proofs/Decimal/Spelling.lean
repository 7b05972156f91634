import Mathlib.Data.List.Forall2
import RuleActivation.Proofs.Decimal.Addition

/-!
# Spellings of a number

Equal decimals differ in the zeros at the end of their fractions, and perhaps in the sign of a zero.
They have the same reduced form. Sums do not depend on the spelling either, not even close to the
limit, where a sum gives up a fraction digit: of two spellings the longer one ends in zeros, and
it is a zero that is given up.

## Main results

* `reduced_eq_of_beq`: equal decimals have the same reduced form
* `exists_addInt?_eq_some`: a sum that is a decimal is found without an error
* `addInt?_of_beq`: equal decimals have equal sums
* `maximum_beq`: equal decimals have equal maxima
-/

namespace RuleActivation.Decimal

variable {a b d r : Decimal} {k : Int}

theorem ext {d e : Decimal} (negative : d.negative = e.negative)
    (magnitude : d.magnitude = e.magnitude) (scale : d.scale = e.scale) : d = e := by
  cases d
  cases e
  cases negative
  cases magnitude
  cases scale
  rfl

/-! ## Reduced forms -/

theorem stripZeros_mul_tenPow (magnitude scale count : Nat) :
    stripZeros (magnitude * tenPow count) (scale + count) = stripZeros magnitude scale := by
  induction count with
  | zero => rw [tenPow_eq, Nat.pow_zero, Nat.mul_one, Nat.add_zero]
  | succ count ih =>
    have factor : magnitude * tenPow (count + 1) = magnitude * tenPow count * 10 := by
      rw [tenPow_succ, Nat.mul_comm 10, Nat.mul_assoc]
    rw [← Nat.add_assoc, stripZeros, factor, if_pos (Nat.mul_mod_left _ _),
      Nat.mul_div_cancel _ (by decide), ih]

/-- Numbers of the same size have the same digits when the trailing zeros are gone. -/
theorem stripZeros_eq_of_le {m n s t : Nat} (h : m * tenPow t = n * tenPow s) (le : s ≤ t) :
    stripZeros m s = stripZeros n t := by
  obtain ⟨count, rfl⟩ := Nat.exists_eq_add_of_le le
  -- the longer number is the shorter one with `count` zeros behind it
  have digits : n = m * tenPow count := by
    apply Nat.eq_of_mul_eq_mul_right (tenPow_pos s)
    rw [← h, tenPow_eq, tenPow_eq, tenPow_eq, Nat.pow_add, Nat.mul_comm (10 ^ s), Nat.mul_assoc]
  rw [digits, stripZeros_mul_tenPow]

theorem negative_reduced (d : Decimal) : d.reduced.negative = decide (d.coefficient < 0) := by
  rw [Bool.eq_iff_iff, decide_eq_true_iff, reduced, coefficient]
  cases d.negative with
  | true => simp [Nat.pos_iff_ne_zero]
  | false => simp

theorem toRat_lt_zero_iff (d : Decimal) : d.toRat < 0 ↔ d.coefficient < 0 := by
  rw [toRat, div_lt_iff₀ (cast_tenPow_pos _), zero_mul]
  exact_mod_cast Iff.rfl

/-- Equal decimals have the same reduced form. -/
theorem reduced_eq_of_beq (h : (a == b) = true) : a.reduced = b.reduced := by
  have sign : decide (a.coefficient < 0) = decide (b.coefficient < 0) := by
    rw [decide_eq_decide, ← toRat_lt_zero_iff, ← toRat_lt_zero_iff, beq_iff_toRat_eq.1 h]
  have digits : stripZeros a.magnitude a.scale = stripZeros b.magnitude b.scale := by
    have same := congrArg Int.natAbs (beq_iff.1 h)
    simp only [Int.natAbs_mul, natAbs_coefficient, Int.natAbs_natCast] at same
    rcases Nat.le_total a.scale b.scale with le | le
    · exact stripZeros_eq_of_le same le
    · exact (stripZeros_eq_of_le same.symm le).symm
  refine ext ?_ (congrArg Prod.fst digits) (congrArg Prod.snd digits)
  rw [negative_reduced, negative_reduced, sign]

/-! ## Longer spellings -/

theorem eq_mul_tenPow {x y : Int} {s t : Nat} (h : x * tenPow t = y * tenPow s) (le : s ≤ t) :
    y = x * tenPow (t - s) := by
  have positive : (tenPow s : Int) ≠ 0 := by exact_mod_cast (tenPow_pos s).ne'
  have split : tenPow t = tenPow (t - s) * tenPow s := by
    rw [tenPow_eq, tenPow_eq, tenPow_eq, ← Nat.pow_add, Nat.sub_add_cancel le]
  apply Int.eq_of_mul_eq_mul_right positive
  rw [← h, split, Nat.cast_mul, Int.mul_assoc]

theorem coefficient_eq_of_beq (h : (a == b) = true) (scale : a.scale = b.scale) :
    a.coefficient = b.coefficient := by
  have padded := eq_mul_tenPow (beq_iff.1 h) scale.le
  rw [scale, Nat.sub_self] at padded
  exact (padded.trans (Int.mul_one _)).symm

/-! ## Sums that are decimals -/

theorem natAbs_add_mul_le (small : k.natAbs ≤ 1) (d : Decimal) :
    (d.coefficient + k * tenPow d.scale).natAbs ≤ d.magnitude + tenPow maxScale := by
  have magnitude := natAbs_coefficient d
  have scaled := tenPow_scale_le d
  rcases (show k = -1 ∨ k = 0 ∨ k = 1 by omega) with rfl | rfl | rfl <;> omega

/-- There is room for the digits of a tenth. -/
theorem lt_limit_of_ten_mul_le {m n : Nat} (bounded : m < limit)
    (tens : 10 * n ≤ m + 10 * tenPow maxScale) : n < limit := by
  rw [show tenPow maxScale = 10000000000000000000000000000 from rfl] at tens
  rw [limit] at *
  omega

theorem roundTenth_ten_mul (q : Int) : roundTenth (10 * q) = q := by
  rw [roundTenth]
  split <;> split <;> omega

theorem exists_make?_eq_some {coefficient : Int} {scale : Nat} (inside : coefficient.natAbs < limit)
    (fits : scale ≤ maxScale) : ∃ r, make? coefficient scale = some r := by
  apply Option.ne_none_iff_exists'.1
  rw [Ne, make?_eq_none_iff fits]
  exact Nat.not_le.2 inside

/-- The sum of a decimal and an integer, if it is a decimal, in their digits. -/
theorem mul_tenPow_of_toRat_eq (exact : r.toRat = d.toRat + k) :
    r.coefficient * tenPow d.scale = (d.coefficient + k * tenPow d.scale) * tenPow r.scale := by
  rw [toRat_add_int, toRat, div_eq_div_iff (cast_tenPow_pos _).ne' (cast_tenPow_pos _).ne'] at exact
  exact_mod_cast exact

/-- A sum with more digits than there is room for, which is a decimal nevertheless, ends in a
zero. -/
theorem exists_ten_mul_of_toRat_eq (exact : r.toRat = d.toRat + k)
    (overflow : limit ≤ (d.coefficient + k * tenPow d.scale).natAbs) :
    d.scale ≠ 0 ∧ ∃ q, d.coefficient + k * tenPow d.scale = 10 * q := by
  have scaled := mul_tenPow_of_toRat_eq exact
  have fewer : r.scale < d.scale := by
    by_contra more
    -- with as many fraction digits as `d`, the other spelling would be as large as the sum
    have padded := eq_mul_tenPow scaled.symm (Nat.not_lt.1 more)
    have digits := congrArg Int.natAbs padded
    rw [natAbs_coefficient, Int.natAbs_mul, Int.natAbs_natCast] at digits
    have longer := Nat.le_mul_of_pos_right (d.coefficient + k * tenPow d.scale).natAbs
      (tenPow_pos (r.scale - d.scale))
    have bounded := r.magnitude_lt
    omega
  obtain ⟨count, places⟩ : ∃ count, d.scale - r.scale = count + 1 :=
    ⟨d.scale - r.scale - 1, by omega⟩
  refine ⟨by omega, r.coefficient * tenPow count, ?_⟩
  rw [eq_mul_tenPow scaled fewer.le, places, tenPow_succ]
  push_cast
  ring

/-- A sum that is a decimal is found without an error. -/
theorem exists_addInt?_eq_some (small : k.natAbs ≤ 1) (exact : r.toRat = d.toRat + k) :
    ∃ s, d.addInt? k = some s ∧ s.toRat = d.toRat + k := by
  rw [addInt?]
  split
  · rename_i zero
    obtain ⟨s, made⟩ : ∃ s, make? k 0 = some s :=
      exists_make?_eq_some (Nat.lt_of_le_of_lt small (by decide)) (Nat.zero_le _)
    obtain ⟨coefficient, scale⟩ := of_make?_eq_some made
    have nothing : d.coefficient = 0 := by
      rw [← Int.natAbs_eq_zero, natAbs_coefficient, zero]
    refine ⟨s, made, ?_⟩
    simp [toRat, coefficient, scale, nothing, tenPow_eq]
  · dsimp only
    split
    · rename_i s made
      obtain ⟨coefficient, scale⟩ := of_make?_eq_some made
      refine ⟨s, rfl, ?_⟩
      rw [toRat_add_int, toRat, coefficient, scale]
    · rename_i overflow
      rw [make?_eq_none_iff d.scale_le] at overflow
      -- the digit that is given up is a zero, so that nothing is rounded
      obtain ⟨fraction, q, tens⟩ := exists_ten_mul_of_toRat_eq exact overflow
      have bounded := natAbs_add_mul_le small d
      rw [tens] at bounded
      have inside : q.natAbs < limit := lt_limit_of_ten_mul_le d.magnitude_lt (by omega)
      rw [if_neg fraction, tens, roundTenth_ten_mul]
      obtain ⟨s, made⟩ := exists_make?_eq_some inside (Nat.le_trans (Nat.sub_le _ 1) d.scale_le)
      obtain ⟨coefficient, scale⟩ := of_make?_eq_some made
      refine ⟨s, made, ?_⟩
      obtain ⟨places, hplaces⟩ := Nat.exists_eq_add_one_of_ne_zero fraction
      have positive := (cast_tenPow_pos places).ne'
      rw [toRat_add_int, tens, toRat, coefficient, scale, hplaces, Nat.add_sub_cancel, tenPow_succ]
      push_cast
      field_simp

/-- A decimal with a longer spelling has room for the digits of a sum. -/
theorem exists_toRat_eq_add_of_scale_lt (small : k.natAbs ≤ 1) (h : (a == b) = true)
    (fewer : a.scale < b.scale) : ∃ r : Decimal, r.toRat = a.toRat + k := by
  -- the longer spelling ends in a zero, so that `a` has one digit less than there is room for
  have padded := congrArg Int.natAbs (eq_mul_tenPow (beq_iff.1 h) fewer.le)
  obtain ⟨count, places⟩ : ∃ count, b.scale - a.scale = count + 1 :=
    ⟨b.scale - a.scale - 1, by omega⟩
  rw [Int.natAbs_mul, natAbs_coefficient, natAbs_coefficient, Int.natAbs_natCast, places,
    tenPow_succ, Nat.mul_left_comm] at padded
  have longer := Nat.le_mul_of_pos_right a.magnitude (tenPow_pos count)
  have sum := natAbs_add_mul_le small a
  have inside : (a.coefficient + k * tenPow a.scale).natAbs < limit :=
    lt_limit_of_ten_mul_le b.magnitude_lt (by omega)
  obtain ⟨r, made⟩ := exists_make?_eq_some inside a.scale_le
  obtain ⟨coefficient, scale⟩ := of_make?_eq_some made
  refine ⟨r, ?_⟩
  rw [toRat_add_int, toRat, coefficient, scale]

/-! ## Sums of equal decimals -/

theorem magnitude_ne_zero_of_addInt?_eq_none (small : k.natAbs ≤ 1) (h : a.addInt? k = none) :
    a.magnitude ≠ 0 := by
  intro zero
  rw [addInt?, if_pos zero, make?_eq_none_iff (Nat.zero_le _)] at h
  exact absurd (Nat.le_trans h small) (by decide)

theorem magnitude_eq_of_coefficient_eq (h : a.coefficient = b.coefficient) :
    a.magnitude = b.magnitude := by
  rw [← natAbs_coefficient, h, natAbs_coefficient]

theorem eq_of_coefficient_eq (coefficient : a.coefficient = b.coefficient)
    (scale : a.scale = b.scale) (nonzero : a.magnitude ≠ 0) : a = b := by
  refine ext ?_ (magnitude_eq_of_coefficient_eq coefficient) scale
  rw [Decimal.coefficient, Decimal.coefficient] at coefficient
  cases ha : a.negative <;> cases hb : b.negative <;> simp only [ha, hb] at coefficient ⊢ <;> grind

theorem addInt?_eq_of_coefficient_eq (coefficient : a.coefficient = b.coefficient)
    (scale : a.scale = b.scale) (k : Int) : a.addInt? k = b.addInt? k := by
  rw [addInt?, addInt?, magnitude_eq_of_coefficient_eq coefficient, coefficient, scale]

theorem exists_toRat_eq_add_of_scale_ne (small : k.natAbs ≤ 1) (h : (a == b) = true)
    (other : a.scale ≠ b.scale) : ∃ r : Decimal, r.toRat = a.toRat + k := by
  rcases Nat.lt_or_gt_of_ne other with fewer | more
  · exact exists_toRat_eq_add_of_scale_lt small h fewer
  · rw [beq_iff_toRat_eq.1 h]
    exact exists_toRat_eq_add_of_scale_lt small (BEq.symm h) more

/-- Equal decimals have equal sums, or none because they are spelled in the same way. -/
theorem addInt?_of_beq (small : k.natAbs ≤ 1) (h : (a == b) = true) :
    (∃ r s, a.addInt? k = some r ∧ b.addInt? k = some s ∧ (r == s) = true) ∨
      (a.addInt? k = none ∧ a = b) := by
  by_cases scale : a.scale = b.scale
  · have coefficient := coefficient_eq_of_beq h scale
    cases sum : a.addInt? k with
    | some r =>
      rw [addInt?_eq_of_coefficient_eq coefficient scale] at sum
      exact .inl ⟨r, r, rfl, sum, BEq.refl r⟩
    | none =>
      -- only a zero can have two signs, and there is a sum for it
      have nonzero := magnitude_ne_zero_of_addInt?_eq_none small sum
      exact .inr ⟨rfl, eq_of_coefficient_eq coefficient scale nonzero⟩
  · -- the longer of two spellings has room for all digits of the sum
    have number := beq_iff_toRat_eq.1 h
    obtain ⟨x, exact⟩ := exists_toRat_eq_add_of_scale_ne small h scale
    obtain ⟨r, hr, sum⟩ := exists_addInt?_eq_some small exact
    obtain ⟨s, hs, sum'⟩ := exists_addInt?_eq_some small (number ▸ exact)
    exact .inl ⟨r, s, hr, hs, beq_iff_toRat_eq.2 (by rw [sum, sum', number])⟩

/-! ## Maxima -/

theorem maximum_beq (h : (a == b) = true) {as bs : List Decimal}
    (items : List.Forall₂ (fun x y => (x == y) = true) as bs) :
    (a.maximum as == b.maximum bs) = true := by
  induction items generalizing a b with
  | nil => exact h
  | @cons x y _ _ first _ ih =>
    have best : ((if x.lt a then a else x) == (if y.lt b then b else y)) = true := by
      rw [lt_congr first h]
      split <;> assumption
    exact ih best

end RuleActivation.Decimal
