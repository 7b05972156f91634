import Mathlib.Algebra.Order.Group.Unbundled.Abs
import Mathlib.Tactic.FieldSimp
import Mathlib.Tactic.Linarith
import Mathlib.Tactic.Positivity
import Mathlib.Tactic.Ring
import RuleActivation.Proofs.Decimal.Addition
import RuleActivation.Value.Normalize

/-!
# The accuracy of reading

A number token denotes a rational number. It is read in two steps, and both of them may round:
taking the digits leaves at most a half of the last one, and moving the point to the left beyond
the largest scale leaves at most another half. The second error adds to a tenth of the first one.

A number that is rounded in the first step has used up the scale or the magnitude. Moving the point
to the right beyond the scale therefore never multiplies an error; there is no room for the digits.

## Main definitions

* `Json.Number.toRat`: the rational number that a token denotes
* `Decimal.IsHeld`: the numbers that decimals stand for
* `Decimal.Rounds`: the digits that are taken of a number
* `Decimal.Moves`: how an exponent moves the point
* `Decimal.ReadsAs`: the digits that are left of the number when the point has moved
* `Json.Number.OutOfRange`: tokens that no decimal is read from

## Main results

* `Decimal.rounds_of_taken?`, `Decimal.reads_of_moved?`: the two steps
* `Decimal.ofNumber?_cases`: the two steps put together, and which tokens no decimal is read from
* `Value.ofJson_number_accurate`: how far a value may be from its token, and when it is exact
-/

namespace RuleActivation

/-! ## The numbers of tokens -/

/-- The number that digits behind the point denote. -/
def Digit.fractionOf : List Digit → ℚ
  | [] => 0
  | d :: ds => (d.val + fractionOf ds) / 10

namespace Digit

theorem fractionOf_nonneg (ds : List Digit) : 0 ≤ fractionOf ds := by
  induction ds with
  | nil => exact le_rfl
  | cons d ds ih =>
    rw [fractionOf]
    positivity

theorem cast_val_le (d : Digit) : (d.val : ℚ) ≤ 9 := by
  exact_mod_cast Nat.le_of_lt_succ d.isLt

theorem fractionOf_lt_one (ds : List Digit) : fractionOf ds < 1 := by
  induction ds with
  | nil => exact zero_lt_one
  | cons d ds ih =>
    rw [fractionOf]
    linarith [cast_val_le d]

/-- The digits behind the point, as an integer. -/
theorem cast_toNat (ds : List Digit) (start : Nat) :
    (toNat ds start : ℚ) = (start + fractionOf ds) * 10 ^ ds.length := by
  induction ds generalizing start with
  | nil => simp [fractionOf]
  | cons d ds ih =>
    rw [toNat_cons, ih, fractionOf, List.length_cons]
    push_cast
    ring

end Digit

namespace Json.Number

variable {n : Number} {e : Exponent}

/-- The number that a token denotes, without its sign. -/
def size (n : Number) : ℚ := n.coefficient * 10 ^ n.power

/-- The number that a token denotes. -/
def toRat (n : Number) : ℚ := if n.negative then -n.size else n.size

/-- A token without its exponent. -/
def mantissa (n : Number) : Number := { n with exponent := none }

theorem size_nonneg (n : Number) : 0 ≤ n.size :=
  mul_nonneg (Nat.cast_nonneg _) (zpow_nonneg (by norm_num) _)

theorem abs_toRat (n : Number) : |n.toRat| = n.size := by
  rw [toRat]
  split
  · rw [abs_neg, abs_of_nonneg n.size_nonneg]
  · rw [abs_of_nonneg n.size_nonneg]

theorem size_mantissa (n : Number) : n.mantissa.size = n.whole + Digit.fractionOf n.fraction := by
  have power : n.mantissa.power = -(n.fraction.length : ℤ) := zero_sub _
  have coefficient : n.mantissa.coefficient = Digit.toNat n.fraction n.whole := rfl
  rw [size, power, coefficient, Digit.cast_toNat, mul_assoc, zpow_neg, zpow_natCast,
    mul_inv_cancel₀ (by positivity), mul_one]

theorem mantissa_of_exponent_eq_none (exponent : n.exponent = none) : n.mantissa = n := by
  rw [mantissa, ← exponent]

/-- A negative exponent divides the mantissa. -/
theorem size_mul_pow (exponent : n.exponent = some e) (negative : e.negative = true) :
    n.size * 10 ^ e.magnitude = n.mantissa.size := by
  have power : n.power + e.magnitude = n.mantissa.power := by
    simp only [Number.power, mantissa, exponent, Option.elim_some, Option.elim_none, negative,
      if_true]
    ring
  rw [size, size, ← power, zpow_add₀ (by norm_num), zpow_natCast, ← mul_assoc]
  rfl

/-- An exponent that is not negative multiplies it. -/
theorem size_eq_mul_pow (exponent : n.exponent = some e) (negative : e.negative = false) :
    n.size = n.mantissa.size * 10 ^ e.magnitude := by
  have power : n.power = n.mantissa.power + e.magnitude := by
    simp only [Number.power, mantissa, exponent, Option.elim_some, Option.elim_none, negative,
      if_false, Bool.false_eq_true]
    ring
  rw [size, size, power, zpow_add₀ (by norm_num), zpow_natCast, ← mul_assoc]
  rfl

end Json.Number

namespace Decimal

variable {x y : ℚ} {magnitude scale : Nat}

/-! ## Numbers that are held -/

/-- The number is that of a decimal. -/
def IsHeld (q : ℚ) : Prop := ∃ d : Decimal, d.toRat = q

theorem cast_tenPow (n : Nat) : ((tenPow n : ℕ) : ℚ) = 10 ^ n := by
  rw [tenPow_eq, Nat.cast_pow, Nat.cast_ofNat]

theorem toRat_eq (d : Decimal) :
    d.toRat = if d.negative then -(d.magnitude / 10 ^ d.scale : ℚ)
      else d.magnitude / 10 ^ d.scale := by
  rw [toRat, coefficient, cast_tenPow]
  split
  · rw [Int.cast_neg, Int.cast_natCast, neg_div]
  · rw [Int.cast_natCast]

/-- The sign has no influence on what is held. -/
theorem isHeld_abs_iff {q : ℚ} : IsHeld |q| ↔ IsHeld q := by
  have opposite {q : ℚ} (held : IsHeld q) : IsHeld (-q) := by
    obtain ⟨d, rfl⟩ := held
    refine ⟨{ d with negative := !d.negative }, ?_⟩
    rw [toRat_eq, toRat_eq]
    cases d.negative with
    | true => exact (neg_neg _).symm
    | false => rfl
  rcases abs_choice q with same | negated
  · rw [same]
  · rw [negated]
    exact ⟨fun held => neg_neg q ▸ opposite held, opposite⟩

theorem isHeld_of_mul_eq (small : magnitude < limit) (fits : scale ≤ maxScale)
    (number : x * 10 ^ scale = magnitude) : IsHeld x := by
  refine ⟨⟨false, magnitude, scale, small, fits⟩, ?_⟩
  rw [toRat_eq, ← number]
  exact mul_div_cancel_right₀ x (by positivity)

theorem IsHeld.exists_mul_eq (held : IsHeld x) (nonneg : 0 ≤ x) :
    ∃ magnitude scale : Nat, magnitude < limit ∧ scale ≤ maxScale ∧ x * 10 ^ scale = magnitude := by
  obtain ⟨d, rfl⟩ := held
  refine ⟨d.magnitude, d.scale, d.magnitude_lt, d.scale_le, ?_⟩
  rw [toRat_eq] at nonneg ⊢
  have positive : (0 : ℚ) ≤ d.magnitude / 10 ^ d.scale := by positivity
  split
  · rename_i negative
    rw [if_pos negative] at nonneg
    have zero : (d.magnitude : ℚ) / 10 ^ d.scale = 0 := by linarith
    rw [zero, neg_zero, zero_mul]
    exact ((div_eq_zero_iff.1 zero).resolve_right (by positivity)).symm
  · exact div_mul_cancel₀ _ (by positivity)

theorem mul_pow_of_le {s t : Nat} (number : x * 10 ^ s = magnitude) (le : s ≤ t) :
    x * 10 ^ t = (magnitude * 10 ^ (t - s) : ℕ) := by
  rw [← Nat.add_sub_cancel' le, pow_add, ← mul_assoc, number, Nat.add_sub_cancel_left]
  push_cast
  rfl

/-- A number between two neighbours is not held if there is no room for one more digit. -/
theorem not_isHeld_of_lt {r : ℚ} (number : x * 10 ^ scale = magnitude + r) (pos : 0 < r)
    (lt : r < 1) (full : scale = maxScale ∨ limit ≤ x * 10 ^ (scale + 1)) : ¬IsHeld x := by
  intro held
  have nonneg : 0 ≤ x := by
    have : 0 ≤ x * 10 ^ scale := number ▸ by positivity
    exact nonneg_of_mul_nonneg_left this (by positivity)
  obtain ⟨m, s, small, fits, decimal⟩ := held.exists_mul_eq nonneg
  rcases Nat.lt_or_ge scale s with more | fewer
  · -- the decimal has the digit that there is no room for
    have room : (limit : ℚ) ≤ x * 10 ^ (scale + 1) := full.resolve_left (by omega)
    have digits : x * 10 ^ (scale + 1) ≤ x * 10 ^ s := by
      gcongr
      · norm_num
      · omega
    rw [decimal] at digits
    have : limit ≤ m := by exact_mod_cast room.trans digits
    omega
  · -- the decimal is a neighbour
    rw [mul_pow_of_le decimal fewer] at number
    have above : magnitude < m * 10 ^ (scale - s) := by
      have : (magnitude : ℚ) < (m * 10 ^ (scale - s) : ℕ) := by linarith
      exact_mod_cast this
    have below : m * 10 ^ (scale - s) < magnitude + 1 := by
      have : ((m * 10 ^ (scale - s) : ℕ) : ℚ) < (magnitude + 1 : ℕ) := by
        push_cast at number ⊢
        linarith
      exact_mod_cast this
    omega

/-! ## Taking digits -/

/-- A number rounded to the nearest magnitude with a scale. If this is not exact, there is no
decimal that is, and no room for one more digit. -/
structure Rounds (x : ℚ) (magnitude scale : Nat) : Prop where
  magnitude_lt : magnitude < limit
  scale_le : scale ≤ maxScale
  lower : magnitude ≤ x * 10 ^ scale + 1 / 2
  upper : x * 10 ^ scale < magnitude + 1 / 2
  exact_or_full : x * 10 ^ scale = magnitude ∨
    ¬IsHeld x ∧ (scale = maxScale ∨ limit - 1 / 2 ≤ x * 10 ^ (scale + 1))

theorem Rounds.exact_iff (h : Rounds x magnitude scale) :
    x * 10 ^ scale = magnitude ↔ IsHeld x := by
  constructor
  · exact isHeld_of_mul_eq h.magnitude_lt h.scale_le
  · intro held
    exact h.exact_or_full.resolve_right fun rounded => rounded.1 held

/-- A number that is rounded to a magnitude is in the range of the magnitudes. -/
theorem lt_of_mul_pow_lt (nonneg : 0 ≤ x) (small : magnitude < limit)
    (upper : x * 10 ^ scale < magnitude + 1 / 2) : x < limit - 1 / 2 := by
  have power : (1 : ℚ) ≤ 10 ^ scale := one_le_pow₀ (by norm_num)
  have scaled : x ≤ x * 10 ^ scale := le_mul_of_one_le_right nonneg power
  have largest : (magnitude : ℚ) + 1 ≤ limit := by exact_mod_cast small
  linarith

/-- A carry beyond the largest magnitude gives up one more digit. -/
theorem rounds_of_carry {r : ℚ} (fits : scale + 1 ≤ maxScale) (half : 1 / 2 ≤ r) (lt : r < 1)
    (number : x * 10 ^ (scale + 1) = (limit - 1 : ℕ) + r) (rounded : ¬IsHeld x) :
    Rounds x ((limit - 1 + 5) / 10) scale := by
  have tens : x * 10 ^ scale * 10 = (limit - 1 : ℕ) + r := by
    rw [← number, pow_succ, mul_assoc]
  refine ⟨by decide, by omega, ?_, ?_, .inr ⟨rounded, .inr ?_⟩⟩
  · norm_num [limit] at tens ⊢
    linarith
  · norm_num [limit] at tens ⊢
    linarith
  · rw [number]
    norm_num [limit]
    linarith

/-- The first digit that is not taken rounds the magnitude; `rest` is what follows this digit. -/
theorem rounds_of_roundOff {d : Digit} {rest : ℚ} {m s : Nat} (small : magnitude < limit)
    (fits : scale ≤ maxScale) (nonneg : 0 ≤ rest) (lt : rest < 1)
    (number : x * 10 ^ scale = magnitude + (d.val + rest) / 10)
    (full : scale = maxScale ∨ limit ≤ x * 10 ^ (scale + 1))
    (h : roundOff magnitude scale d = some (m, s)) : Rounds x m s := by
  have digit := Digit.cast_val_le d
  have rounded (dropped : 0 < (d.val + rest) / 10) : ¬IsHeld x :=
    not_isHeld_of_lt number dropped (by linarith) full
  have noRoom : scale = maxScale ∨ limit - 1 / 2 ≤ x * 10 ^ (scale + 1) :=
    full.imp_right fun room => by linarith
  rw [roundOff] at h
  split at h
  · -- the digit is dropped
    rename_i low
    cases h
    have low : (d.val : ℚ) ≤ 4 := by exact_mod_cast Nat.le_of_lt_succ low
    have tenth : 0 ≤ (d.val + rest) / 10 := by positivity
    refine ⟨small, fits, by linarith, by linarith, ?_⟩
    -- nothing is lost if the digits that follow are zeros, too
    rcases eq_or_lt_of_le tenth with zero | dropped
    · left
      rw [number, ← zero, add_zero]
    · exact .inr ⟨rounded dropped, noRoom⟩
  · rename_i high
    have high : (5 : ℚ) ≤ d.val := by exact_mod_cast Nat.not_lt.1 high
    have dropped : 0 < (d.val + rest) / 10 := by linarith
    split at h
    · -- the carry fits
      rename_i carry
      cases h
      refine ⟨carry, fits, ?_, ?_, .inr ⟨rounded dropped, noRoom⟩⟩
      all_goals
        rw [number]
        push_cast
        linarith
    · split at h
      · cases h
      · -- the carry has to give up one digit
        rename_i carry fraction
        cases h
        obtain ⟨places, rfl⟩ := Nat.exists_eq_add_one_of_ne_zero fraction
        obtain rfl : magnitude = limit - 1 := by omega
        exact rounds_of_carry fits (by linarith) (by linarith) number (rounded dropped)

/-- There is no room for a carry only beyond the largest magnitude. -/
theorem le_of_roundOff_eq_none {d : Digit} {rest : ℚ} (nonneg : 0 ≤ rest)
    (number : x * 10 ^ scale = magnitude + (d.val + rest) / 10)
    (h : roundOff magnitude scale d = none) : limit - 1 / 2 ≤ x := by
  rw [roundOff] at h
  split at h
  · cases h
  · rename_i high
    have high : (5 : ℚ) ≤ d.val := by exact_mod_cast Nat.not_lt.1 high
    split at h
    · cases h
    · rename_i carry
      split at h
      · rename_i whole
        have largest : (limit : ℚ) ≤ magnitude + 1 := by exact_mod_cast Nat.not_lt.1 carry
        rw [whole, pow_zero, mul_one] at number
        linarith
      · cases h

theorem mul_pow_succ_eq {d : Digit} {ds : List Digit}
    (number : x * 10 ^ scale = magnitude + Digit.fractionOf (d :: ds)) :
    x * 10 ^ (scale + 1) = (10 * magnitude + d.val : ℕ) + Digit.fractionOf ds := by
  rw [pow_succ, ← mul_assoc, number, Digit.fractionOf]
  push_cast
  ring

/-- The digits that are taken of a fraction round the number. -/
theorem rounds_of_takeFraction {ds : List Digit} {m s : Nat} (small : magnitude < limit)
    (fits : scale ≤ maxScale) (number : x * 10 ^ scale = magnitude + Digit.fractionOf ds)
    (h : takeFraction magnitude scale ds = some (m, s)) : Rounds x m s := by
  -- a digit that is taken moves the point of `number`, but not the number itself
  induction ds generalizing magnitude scale with
  | nil =>
    cases h
    rw [Digit.fractionOf, add_zero] at number
    exact ⟨small, fits, by linarith, by linarith, .inl number⟩
  | cons d ds ih =>
    have next := mul_pow_succ_eq number
    rw [takeFraction] at h
    split at h
    · rename_i room
      exact ih room.1 room.2 next h
    · rename_i stop
      have rest := Digit.fractionOf_nonneg ds
      refine rounds_of_roundOff small fits rest (Digit.fractionOf_lt_one ds) number ?_ h
      rcases Nat.lt_or_ge scale maxScale with room | used
      · right
        have digits : limit ≤ 10 * magnitude + d.val := Nat.not_lt.1 fun lt => stop ⟨lt, room⟩
        have digits : (limit : ℚ) ≤ (10 * magnitude + d.val : ℕ) := by exact_mod_cast digits
        linarith
      · exact .inl (le_antisymm fits used)

theorem le_of_takeFraction_eq_none {ds : List Digit} (small : magnitude < limit)
    (number : x * 10 ^ scale = magnitude + Digit.fractionOf ds)
    (h : takeFraction magnitude scale ds = none) : limit - 1 / 2 ≤ x := by
  induction ds generalizing magnitude scale with
  | nil => cases h
  | cons d ds ih =>
    rw [takeFraction] at h
    split at h
    · rename_i room
      exact ih room.1 (mul_pow_succ_eq number) h
    · exact le_of_roundOff_eq_none (Digit.fractionOf_nonneg ds) number h

/-- The magnitude and the scale that are taken of a token. -/
def taken? (n : Json.Number) : Option (Nat × Nat) :=
  if n.whole < limit then takeFraction n.whole 0 n.fraction else none

theorem size_mantissa_mul_pow (n : Json.Number) :
    n.mantissa.size * 10 ^ 0 = n.whole + Digit.fractionOf n.fraction := by
  rw [pow_zero, mul_one, n.size_mantissa]

theorem rounds_of_taken? {n : Json.Number} (h : taken? n = some (magnitude, scale)) :
    Rounds n.mantissa.size magnitude scale := by
  rw [taken?] at h
  split at h
  · rename_i small
    exact rounds_of_takeFraction small (Nat.zero_le _) (size_mantissa_mul_pow n) h
  · cases h

theorem le_of_taken?_eq_none {n : Json.Number} (h : taken? n = none) :
    limit - 1 / 2 ≤ n.mantissa.size := by
  rw [taken?] at h
  split at h
  · rename_i small
    exact le_of_takeFraction_eq_none small (size_mantissa_mul_pow n) h
  · rename_i large
    have large : (limit : ℚ) ≤ n.whole := by exact_mod_cast Nat.not_lt.1 large
    rw [n.size_mantissa]
    linarith [Digit.fractionOf_nonneg n.fraction]

/-! ## Moving the point -/

/-- A number `y` with the digits of `x`, rounded to a magnitude with a scale. This is exact if both
of them are held. -/
structure ReadsAs (x y : ℚ) (magnitude scale : Nat) : Prop where
  lt : y < limit - 1 / 2
  error : |magnitude - y * 10 ^ scale| ≤ 11 / 20
  exact_iff : y * 10 ^ scale = magnitude ↔ IsHeld x ∧ IsHeld y

/-- Moving the point keeps the digits as long as the scale allows. -/
theorem Rounds.reads_of_eq {t : Nat} (h : Rounds x magnitude scale) (nonneg : 0 ≤ y)
    (fits : t ≤ maxScale) (same : y * 10 ^ t = x * 10 ^ scale) : ReadsAs x y magnitude t where
  lt := lt_of_mul_pow_lt nonneg h.magnitude_lt (same ▸ h.upper)
  error := by
    rw [same, abs_le]
    constructor <;> linarith [h.lower, h.upper]
  exact_iff := by
    constructor
    · intro number
      exact ⟨h.exact_iff.1 (same ▸ number), isHeld_of_mul_eq h.magnitude_lt fits number⟩
    · intro held
      exact same.trans (h.exact_iff.2 held.1)

/-- To the right of the scale, the digits are multiplied. There is room for the product only if
nothing has been rounded. -/
theorem Rounds.reads_of_mul {places : Nat} (h : Rounds x magnitude scale)
    (moved : y = x * 10 ^ places) (beyond : scale < places) (fits : places ≤ maxScale)
    (small : magnitude * 10 ^ (places - scale) < limit) :
    ReadsAs x y (magnitude * 10 ^ (places - scale)) 0 := by
  have exact : x * 10 ^ scale = magnitude := by
    refine h.exact_or_full.resolve_right ?_
    rintro ⟨-, used | full⟩
    · omega
    · -- ten times the magnitude is beyond the limit, since this does not end in a zero
      have tens : (limit : ℚ) - 1 / 2 < 10 * magnitude + 5 := by
        rw [pow_succ, ← mul_assoc] at full
        linarith [h.upper]
      have tens : limit < 10 * magnitude + 6 := by
        have : (limit : ℚ) < (10 * magnitude + 6 : ℕ) := by
          push_cast
          linarith
        exact_mod_cast this
      have longer : magnitude * 10 ^ 1 ≤ magnitude * 10 ^ (places - scale) :=
        Nat.mul_le_mul_left _ (Nat.pow_le_pow_right (by decide) (by omega))
      rw [limit] at tens small
      omega
  have number : y * 10 ^ 0 = (magnitude * 10 ^ (places - scale) : ℕ) := by
    rw [pow_zero, mul_one, moved, mul_pow_of_le exact beyond.le]
  have held := isHeld_of_mul_eq small (Nat.zero_le _) number
  refine ⟨?_, ?_, iff_of_true number ⟨h.exact_iff.1 exact, held⟩⟩
  · have largest : ((magnitude * 10 ^ (places - scale) : ℕ) : ℚ) + 1 ≤ limit := by
      exact_mod_cast small
    rw [pow_zero, mul_one] at number
    linarith
  · rw [number, sub_self, abs_zero]
    norm_num

/-- Without room for the product, the number is beyond the largest magnitude. -/
theorem Rounds.le_of_mul {places : Nat} (h : Rounds x magnitude scale) (nonneg : 0 ≤ x)
    (moved : y = x * 10 ^ places) (beyond : scale < places) (fits : places ≤ maxScale)
    (large : limit ≤ magnitude * 10 ^ (places - scale)) : limit - 1 / 2 ≤ y := by
  rcases h.exact_or_full with exact | ⟨-, used | full⟩
  · have number := mul_pow_of_le exact beyond.le
    have large : (limit : ℚ) ≤ (magnitude * 10 ^ (places - scale) : ℕ) := by exact_mod_cast large
    linarith
  · omega
  · rw [moved]
    refine full.trans ?_
    gcongr
    · norm_num
    · omega

/-! ### Dropping digits -/

theorem dropDigits_lt {m : Nat} (small : m < limit) (count : Nat) : dropDigits m count < limit := by
  have positive := tenPow_pos count
  rw [dropDigits, Nat.div_lt_iff_lt_mul positive]
  rw [limit] at small ⊢
  omega

theorem dropDigits_mul (m count : Nat) : dropDigits (m * 10 ^ count) count = m := by
  have positive := tenPow_pos count
  rw [dropDigits, ← tenPow_eq, Nat.add_comm, Nat.add_mul_div_right _ _ positive,
    Nat.div_eq_of_lt (Nat.div_lt_self positive (by decide)), Nat.zero_add]

/-- Dropping digits rounds to the nearest number; a half goes up. -/
theorem dropDigits_bounds (m : Nat) {count : Nat} (nonzero : count ≠ 0) :
    (dropDigits m count : ℚ) * 10 ^ count ≤ m + 10 ^ count / 2 ∧
      (m : ℚ) < dropDigits m count * 10 ^ count + 10 ^ count / 2 := by
  obtain ⟨c, rfl⟩ := Nat.exists_eq_add_one_of_ne_zero nonzero
  obtain ⟨half, positive, power⟩ : ∃ half, 0 < half ∧ tenPow (c + 1) = 2 * half :=
    ⟨5 * tenPow c, by have := tenPow_pos c; omega, by rw [tenPow_succ]; omega⟩
  have digits : dropDigits m (c + 1) = (m + half) / (2 * half) := by
    rw [dropDigits, power, Nat.mul_div_cancel_left _ (by decide)]
  have division := Nat.div_add_mod (m + half) (2 * half)
  have remainder := Nat.mod_lt (m + half) (show 0 < 2 * half by omega)
  rw [← digits] at division
  have lower : dropDigits m (c + 1) * (2 * half) ≤ m + half := by
    rw [Nat.mul_comm]
    omega
  have upper : m < dropDigits m (c + 1) * (2 * half) + half := by
    rw [Nat.mul_comm]
    omega
  have lower : (dropDigits m (c + 1) : ℚ) * (2 * half) ≤ m + half := by exact_mod_cast lower
  have upper : (m : ℚ) < dropDigits m (c + 1) * (2 * half) + half := by exact_mod_cast upper
  have scaled : (10 : ℚ) ^ (c + 1) = 2 * half := by
    rw [← cast_tenPow, power]
    push_cast
    rfl
  rw [scaled]
  constructor <;> linarith

/-- To the left of the largest scale, digits are dropped. -/
theorem Rounds.reads_of_dropDigits {places : Nat} (h : Rounds x magnitude scale) (nonneg : 0 ≤ y)
    (moved : y * 10 ^ places = x) (beyond : maxScale < scale + places) (fits : places ≤ maxScale) :
    ReadsAs x y (dropDigits magnitude (scale + places - maxScale)) maxScale := by
  obtain ⟨count, sum⟩ := Nat.exists_eq_add_of_le beyond.le
  rw [sum, Nat.add_sub_cancel_left]
  have nonzero : count ≠ 0 := by omega
  have small := dropDigits_lt h.magnitude_lt count
  have digits : y * 10 ^ maxScale * 10 ^ count = x * 10 ^ scale := by
    rw [mul_assoc, ← pow_add, ← sum, Nat.add_comm scale, pow_add, ← mul_assoc, moved]
  refine ⟨?lt, ?error, ?exact, ?rounded⟩
  case lt =>
    have smaller : y ≤ x := moved ▸ le_mul_of_one_le_right nonneg (one_le_pow₀ (by norm_num))
    exact smaller.trans_lt (lt_of_mul_pow_lt (nonneg.trans smaller) h.magnitude_lt h.upper)
  case error =>
    -- the first error counts a tenth at most, since at least one digit is dropped
    obtain ⟨lower, upper⟩ := dropDigits_bounds magnitude nonzero
    have tenth : (10 : ℚ) ≤ 10 ^ count := le_self_pow₀ (by norm_num) nonzero
    have positive : (0 : ℚ) < 10 ^ count := by positivity
    apply le_of_mul_le_mul_right _ positive
    rw [← abs_of_pos positive, ← abs_mul, abs_of_pos positive, sub_mul, digits, abs_le]
    constructor <;> linarith [h.lower, h.upper]
  case exact =>
    intro number
    refine ⟨isHeld_of_mul_eq small (Nat.sub_le maxScale places) ?_,
      isHeld_of_mul_eq small le_rfl number⟩
    rw [← number, ← moved, mul_assoc, ← pow_add, Nat.add_sub_cancel' fits]
  case rounded =>
    rintro ⟨before, after⟩
    obtain ⟨m, s, -, le, decimal⟩ := after.exists_mul_eq nonneg
    have number := mul_pow_of_le decimal le
    have exact : magnitude = m * 10 ^ (maxScale - s) * 10 ^ count := by
      have taken := h.exact_iff.2 before
      rw [← digits, number] at taken
      exact_mod_cast taken.symm
    rw [number, exact, dropDigits_mul]

/-! ### Exponents -/

/-- The magnitude and the scale when an exponent, if there is one, has moved the point. -/
def moved? (magnitude scale : Nat) : Option Json.Exponent → Option (Nat × Nat)
  | none => some (magnitude, scale)
  | some e => shift magnitude scale e

/-- How an exponent moves the point: it does so to the left or to the right, as far as the scale
allows or beyond it. -/
inductive Moves (magnitude scale : Nat) : Option Json.Exponent → Option (Nat × Nat) → Prop
  | stays : Moves magnitude scale none (some (magnitude, scale))
  | unread {e : Json.Exponent} (far : maxScale < e.magnitude) : Moves magnitude scale (some e) none
  | left {e : Json.Exponent} (negative : e.negative = true)
      (fits : scale + e.magnitude ≤ maxScale) :
      Moves magnitude scale (some e) (some (magnitude, scale + e.magnitude))
  | dropping {e : Json.Exponent} (near : e.magnitude ≤ maxScale) (negative : e.negative = true)
      (beyond : maxScale < scale + e.magnitude) :
      Moves magnitude scale (some e)
        (some (dropDigits magnitude (scale + e.magnitude - maxScale), maxScale))
  | right {e : Json.Exponent} (positive : e.negative = false) (within : e.magnitude ≤ scale) :
      Moves magnitude scale (some e) (some (magnitude, scale - e.magnitude))
  | growing {e : Json.Exponent} (near : e.magnitude ≤ maxScale) (positive : e.negative = false)
      (beyond : scale < e.magnitude) :
      Moves magnitude scale (some e) (some (magnitude * 10 ^ (e.magnitude - scale), 0))

theorem moves_moved? (magnitude scale : Nat) (exponent : Option Json.Exponent) :
    Moves magnitude scale exponent (moved? magnitude scale exponent) := by
  cases exponent with
  | none => exact .stays
  | some e =>
    rw [moved?, shift]
    split
    · exact .unread ‹_›
    · have near := Nat.not_lt.1 ‹_›
      split
      · split
        · exact .left ‹_› ‹_›
        · exact .dropping near ‹_› (Nat.not_le.1 ‹_›)
      · have positive := Bool.eq_false_iff.2 ‹_›
        split
        · exact .right positive ‹_›
        · exact .growing near positive (Nat.not_le.1 ‹_›)

/-- A zero remains a zero. -/
theorem eq_zero_of_moved? {exponent : Option Json.Exponent} {m s : Nat}
    (h : moved? 0 scale exponent = some (m, s)) : m = 0 := by
  have moves := moves_moved? 0 scale exponent
  rw [h] at moves
  cases moves with
  | stays | left | right => rfl
  | @dropping e =>
    have zero := dropDigits_mul 0 (scale + e.magnitude - maxScale)
    rwa [Nat.zero_mul] at zero
  | growing => exact Nat.zero_mul _

/-- Moving the point leaves digits of the number that the token denotes, or there is no room for
them. -/
theorem reads_of_moved? {n : Json.Number} {m s : Nat} (h : Rounds n.mantissa.size magnitude scale)
    (moved : moved? magnitude scale n.exponent = some (m, s)) :
    (m < limit ∧ s ≤ maxScale ∧ ReadsAs n.mantissa.size n.size m s) ∨
      (limit ≤ m ∧ limit - 1 / 2 ≤ n.size) := by
  have nonneg := n.size_nonneg
  have moves := moves_moved? magnitude scale n.exponent
  rw [moved] at moves
  generalize exponent : n.exponent = given at moves
  cases moves with
  | stays =>
    refine .inl ⟨h.magnitude_lt, h.scale_le, h.reads_of_eq nonneg h.scale_le ?_⟩
    rw [n.mantissa_of_exponent_eq_none exponent]
  | left negative fits =>
    refine .inl ⟨h.magnitude_lt, fits, h.reads_of_eq nonneg fits ?_⟩
    rw [Nat.add_comm, pow_add, ← mul_assoc, Json.Number.size_mul_pow exponent negative]
  | dropping near negative beyond =>
    have left := Json.Number.size_mul_pow exponent negative
    have reads := h.reads_of_dropDigits nonneg left beyond near
    exact .inl ⟨dropDigits_lt h.magnitude_lt _, le_rfl, reads⟩
  | @right e positive within =>
    have fits := Nat.le_trans (Nat.sub_le scale e.magnitude) h.scale_le
    refine .inl ⟨h.magnitude_lt, fits, h.reads_of_eq nonneg fits ?_⟩
    rw [Json.Number.size_eq_mul_pow exponent positive, mul_assoc, ← pow_add,
      Nat.add_sub_cancel' within]
  | @growing e near positive beyond =>
    have right := Json.Number.size_eq_mul_pow exponent positive
    rcases Nat.lt_or_ge (magnitude * 10 ^ (e.magnitude - scale)) limit with small | large
    · exact .inl ⟨small, Nat.zero_le _, h.reads_of_mul right beyond near small⟩
    · exact .inr ⟨large, h.le_of_mul n.mantissa.size_nonneg right beyond near large⟩

end Decimal

/-! ## Reading tokens -/

open Decimal in
/-- Tokens that no decimal is read from: the exponent is larger than the largest scale, or the
number would be rounded to one beyond the largest magnitude, with its exponent or without it. -/
def Json.Number.OutOfRange (n : Json.Number) : Prop :=
  (∃ e, n.exponent = some e ∧ maxScale < e.magnitude) ∨
    limit - 1 / 2 ≤ |n.mantissa.toRat| ∨ limit - 1 / 2 ≤ |n.toRat|

namespace Decimal

variable {n : Json.Number}

theorem ofNumber?_eq (n : Json.Number) :
    ofNumber? n = (taken? n).bind fun digits =>
      (moved? digits.1 digits.2 n.exponent).bind fun moved =>
        ofParts? (n.negative && digits.1 != 0) moved.1 moved.2 := by
  rw [ofNumber?, taken?]
  split
  · cases n.exponent <;> rfl
  · rfl

/-- A decimal that is read from a token has the sign of the token, if it is not zero. -/
structure ReadFrom (d : Decimal) (n : Json.Number) : Prop where
  toRat_eq : d.toRat = if n.negative then -(d.magnitude / 10 ^ d.scale : ℚ)
    else d.magnitude / 10 ^ d.scale
  reads : ReadsAs n.mantissa.size n.size d.magnitude d.scale

/-- What is read of a token. -/
theorem ofNumber?_cases (n : Json.Number) :
    (n.OutOfRange ∧ ofNumber? n = none) ∨
      (¬n.OutOfRange ∧ ∃ d, ofNumber? n = some d ∧ d.ReadFrom n) := by
  rw [ofNumber?_eq, Json.Number.OutOfRange, Json.Number.abs_toRat, Json.Number.abs_toRat]
  cases taken : taken? n with
  | none => exact .inl ⟨.inr (.inl (le_of_taken?_eq_none taken)), rfl⟩
  | some digits =>
    have rounds := rounds_of_taken? taken
    have inside := lt_of_mul_pow_lt n.mantissa.size_nonneg rounds.magnitude_lt rounds.upper
    rw [Option.bind_some]
    cases moved : moved? digits.1 digits.2 n.exponent with
    | none =>
      have moves := moves_moved? digits.1 digits.2 n.exponent
      rw [moved] at moves
      generalize n.exponent = exponent at moves
      cases moves with
      | @unread e far => exact .inl ⟨.inl ⟨e, rfl, far⟩, rfl⟩
    | some parts =>
      rw [Option.bind_some]
      rcases reads_of_moved? rounds moved with ⟨small, fits, reads⟩ | ⟨large, beyond⟩
      · refine .inr ⟨?_, _, dif_pos ⟨small, fits⟩, ?_, reads⟩
        · rintro (⟨e, exponent, places⟩ | mantissa | number)
          · rw [exponent, moved?, shift, if_pos places] at moved
            cases moved
          · exact mantissa.not_gt inside
          · exact number.not_gt reads.lt
        · rw [Decimal.toRat_eq]
          by_cases zero : digits.1 = 0
          · rw [zero] at moved
            simp [eq_zero_of_moved? moved]
          · simp [zero]
      · exact .inl ⟨.inr (.inr beyond), dif_neg fun inside => Nat.not_le.2 inside.1 large⟩

theorem ReadFrom.abs_sub_eq {d : Decimal} (h : d.ReadFrom n) :
    |d.toRat - n.toRat| = |(d.magnitude : ℚ) - n.size * 10 ^ d.scale| / 10 ^ d.scale := by
  have positive : (0 : ℚ) < 10 ^ d.scale := by positivity
  have unsigned : |d.toRat - n.toRat| = |(d.magnitude : ℚ) / 10 ^ d.scale - n.size| := by
    rw [h.toRat_eq, Json.Number.toRat]
    split
    · rw [← neg_sub', abs_neg]
    · rfl
  rw [unsigned, ← abs_of_pos positive, ← abs_div, abs_of_pos positive, sub_div,
    mul_div_cancel_right₀ _ positive.ne']

end Decimal

open Decimal in
/-- A token out of range is not represented. Any other token is read as a number, whether or not
there is a decimal for it. The error is at most eleven twentieths of the last digit, and there is
none if and only if the mantissa and the number itself are held. -/
theorem Value.ofJson_number_accurate (n : Json.Number) :
    (n.OutOfRange ∧ ofJson (.number n) = .absent .unrepresentable) ∨
      (¬n.OutOfRange ∧ ∃ d, ofJson (.number n) = .number d ∧
        |d.toRat - n.toRat| ≤ 11 / 20 / 10 ^ d.scale ∧
        (d.toRat = n.toRat ↔ IsHeld n.mantissa.toRat ∧ IsHeld n.toRat)) := by
  rw [ofJson]
  rcases ofNumber?_cases n with ⟨beyond, missing⟩ | ⟨inside, d, found, read⟩
  · rw [missing]
    exact .inl ⟨beyond, rfl⟩
  · rw [found]
    refine .inr ⟨inside, d, rfl, ?_, ?_⟩
    · rw [read.abs_sub_eq]
      have error := read.reads.error
      gcongr
    · rw [← sub_eq_zero, ← abs_eq_zero, read.abs_sub_eq, div_eq_zero_iff, abs_eq_zero, sub_eq_zero,
        or_iff_left (by positivity), eq_comm, read.reads.exact_iff, ← Json.Number.abs_toRat,
        ← Json.Number.abs_toRat, isHeld_abs_iff, isHeld_abs_iff]

/-- The number token of half of the smallest decimal above zero. -/
def Json.Number.halfOfSmallest : Json.Number := ⟨false, 0, Digit.ofNat 29 5, none⟩

theorem Json.Number.toRat_halfOfSmallest : halfOfSmallest.toRat = 5 / 10 ^ 29 := by
  have coefficient : halfOfSmallest.coefficient = 5 := by decide
  have power : halfOfSmallest.power = -29 := by decide
  have positive : halfOfSmallest.toRat = halfOfSmallest.size := rfl
  rw [positive, size, coefficient, power]
  norm_num

/-- A number that no decimal stands for may be read as another number. -/
theorem Value.exists_ofJson_number_ne :
    Json.Number.halfOfSmallest.text = "0.00000000000000000000000000005" ∧
      ¬Decimal.IsHeld Json.Number.halfOfSmallest.toRat ∧
      ∃ d, ofJson (.number Json.Number.halfOfSmallest) = .number d ∧
        d.toRat ≠ Json.Number.halfOfSmallest.toRat := by
  have notHeld : ¬Decimal.IsHeld Json.Number.halfOfSmallest.toRat := by
    have between : Json.Number.halfOfSmallest.toRat * 10 ^ Decimal.maxScale = (0 : ℕ) + 1 / 2 := by
      rw [Json.Number.toRat_halfOfSmallest]
      norm_num [Decimal.maxScale]
    exact Decimal.not_isHeld_of_lt between (by norm_num) (by norm_num) (.inl rfl)
  refine ⟨by decide, notHeld, _, rfl, ?_⟩
  intro same
  exact notHeld ⟨_, same⟩

end RuleActivation
