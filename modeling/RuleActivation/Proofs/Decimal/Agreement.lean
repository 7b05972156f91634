import Mathlib.Algebra.Order.Floor.Ring
import Mathlib.Data.Nat.Find
import Mathlib.Data.Rat.Floor
import RuleActivation.Proofs.Decimal.Reading
import RuleActivation.Proofs.Value.Equality

/-!
# Spellings of one number

What is read of a token depends on more than the number that it denotes. The digits are rounded
before the point moves, and the point moves by a limited number of places. So the token stands for
a number that is rounded twice, which is stated here for all tokens in range.

Two spellings of one number can differ in the result for two reasons only: one exponent is too
large, or the digits of one mantissa do not fit. Tokens without an exponent have neither problem,
since their point does not move. Neither have tokens whose exponent can be read and whose mantissa
is held. All these tokens are read as the value that is nearest to the number.

## Main definitions

* `Decimal.roundAt`, `Decimal.nearest`: rounding to a scale, and to the scale that there is room for
* `Json.Number.settled`: the number that is left of the one that a token denotes
* `Json.Number.KeepsDigits`: tokens that lose no digit before the point moves

## Main results

* `Decimal.toRat_of_ofNumber?`: the number of the decimal that is read
* `Value.ofJson_number_beq_iff`: when two tokens are read as equal values
* `Value.ofJson_number_agree`: two spellings of one number
-/

namespace RuleActivation

namespace Decimal

variable {x y : ℚ} {magnitude scale s t : Nat}

/-! ## Rounding -/

/-- The number rounded to fraction digits; a half goes up. -/
def roundAt (scale : Nat) (x : ℚ) : ℚ := ⌊x * 10 ^ scale + 1 / 2⌋ / 10 ^ scale

/-- The largest scale with which the number, when it is rounded, has no more digits than a
magnitude. -/
def room (x : ℚ) : Nat := Nat.findGreatest (fun scale => x * 10 ^ scale < limit - 1 / 2) maxScale

/-- The number rounded to as many fraction digits as there is room for. -/
def nearest (x : ℚ) : ℚ := roundAt (room x) x

theorem roundAt_eq (lower : magnitude ≤ x * 10 ^ scale + 1 / 2)
    (upper : x * 10 ^ scale < magnitude + 1 / 2) : roundAt scale x = magnitude / 10 ^ scale := by
  have floor : ⌊x * 10 ^ scale + 1 / 2⌋ = (magnitude : ℤ) := by
    rw [Int.floor_eq_iff, Int.cast_natCast]
    constructor <;> linarith
  rw [roundAt, floor, Int.cast_natCast]

/-- A number is not changed by rounding if its digits are kept. -/
theorem roundAt_of_mul_eq (number : x * 10 ^ s = magnitude) (le : s ≤ t) : roundAt t x = x := by
  have digits := mul_pow_of_le number le
  have rounded : roundAt t x = (magnitude * 10 ^ (t - s) : ℕ) / 10 ^ t :=
    roundAt_eq (by linarith) (by linarith)
  rw [rounded, ← digits]
  exact mul_div_cancel_right₀ x (by positivity)

theorem le_room (le : scale ≤ maxScale) (small : x * 10 ^ scale < limit - 1 / 2) :
    scale ≤ room x :=
  Nat.le_findGreatest le small

theorem room_le (x : ℚ) : room x ≤ maxScale := Nat.findGreatest_le maxScale

theorem mul_pow_room_lt (small : x < limit - 1 / 2) : x * 10 ^ room x < limit - 1 / 2 := by
  refine Nat.findGreatest_spec (P := fun scale => x * 10 ^ scale < limit - 1 / 2)
    (Nat.zero_le maxScale) ?_
  rwa [pow_zero, mul_one]

/-- A number that is held has room for its digits. -/
theorem nearest_of_mul_eq (number : x * 10 ^ scale = magnitude) (small : magnitude < limit)
    (fits : scale ≤ maxScale) : nearest x = x := by
  refine roundAt_of_mul_eq number (le_room fits ?_)
  have largest : (magnitude : ℚ) + 1 ≤ limit := by exact_mod_cast small
  linarith

theorem nearest_of_isHeld (held : IsHeld x) (nonneg : 0 ≤ x) : nearest x = x := by
  obtain ⟨magnitude, scale, small, fits, number⟩ := held.exists_mul_eq nonneg
  exact nearest_of_mul_eq number small fits

theorem nearest_zero : nearest 0 = 0 :=
  nearest_of_isHeld ⟨zero, by simp [toRat_eq, zero]⟩ le_rfl

/-- Taking the digits of a number rounds it to the scale that there is room for. -/
theorem Rounds.div_eq_nearest (h : Rounds x magnitude scale) (nonneg : 0 ≤ x) :
    (magnitude / 10 ^ scale : ℚ) = nearest x := by
  rcases h.exact_or_full with exact | ⟨-, full⟩
  · rw [nearest_of_mul_eq exact h.magnitude_lt h.scale_le, ← exact]
    exact mul_div_cancel_right₀ x (by positivity)
  · -- there is no room for one more digit
    have largest : (magnitude : ℚ) + 1 ≤ limit := by exact_mod_cast h.magnitude_lt
    have fits : scale ≤ room x := le_room h.scale_le (by linarith [h.upper])
    have last : room x ≤ scale := by
      rcases full with used | full
      · exact used ▸ room_le x
      · by_contra more
        have inside := mul_pow_room_lt (lt_of_mul_pow_lt nonneg h.magnitude_lt h.upper)
        have digits : x * 10 ^ (scale + 1) ≤ x * 10 ^ room x := by
          gcongr
          · norm_num
          · omega
        linarith
    rw [nearest, le_antisymm last fits, roundAt_eq h.lower h.upper]

end Decimal

/-! ## The number that is left of a token -/

/-- The number of places by which an exponent moves the point to the right. -/
def Json.Exponent.shift (e : Exponent) : ℤ := if e.negative then -(e.magnitude : ℤ) else e.magnitude

namespace Json.Number

/-- The number of places by which the point of a token moves to the right. -/
def shift (n : Number) : ℤ := n.exponent.elim 0 Exponent.shift

theorem size_eq_mul_zpow (n : Number) : n.size = n.mantissa.size * 10 ^ n.shift := by
  have power : n.power = n.mantissa.power + n.shift := by
    show n.shift - n.fraction.length = 0 - n.fraction.length + n.shift
    ring
  rw [size, size, power, zpow_add₀ (by norm_num), ← mul_assoc]
  rfl

theorem negative_eq_or_size_eq_zero {m n : Number} (same : m.toRat = n.toRat) :
    m.negative = n.negative ∨ n.size = 0 := by
  have size : m.size = n.size := by rw [← abs_toRat, same, abs_toRat]
  rw [toRat, toRat, size] at same
  generalize m.negative = sign at same ⊢
  generalize n.negative = sign' at same ⊢
  cases sign <;> cases sign' <;> simp at same ⊢ <;> linarith

/-- The number that is left when the digits are rounded, the point moves and what is behind the
largest scale is rounded again. -/
def settled (n : Number) : ℚ :=
  let size := Decimal.roundAt Decimal.maxScale (Decimal.nearest n.mantissa.size * 10 ^ n.shift)
  if n.negative then -size else size

end Json.Number

namespace Decimal

variable {x y : ℚ} {magnitude scale s t : Nat}

theorem div_eq_roundAt {m : Nat} (number : y * 10 ^ s = m) (le : s ≤ t) :
    (m / 10 ^ s : ℚ) = roundAt t y := by
  rw [roundAt_of_mul_eq number le, ← number]
  exact mul_div_cancel_right₀ y (by positivity)

/-- Dropping digits rounds; a half goes up. -/
theorem div_eq_roundAt_of_dropDigits {count : Nat} (nonzero : count ≠ 0)
    (number : y * 10 ^ s * 10 ^ count = magnitude) :
    (dropDigits magnitude count / 10 ^ s : ℚ) = roundAt s y := by
  have positive : (0 : ℚ) < 10 ^ count := by positivity
  obtain ⟨lower, upper⟩ := dropDigits_bounds magnitude nonzero
  rw [← number] at lower upper
  refine (roundAt_eq ?_ ?_).symm
  · apply le_of_mul_le_mul_right _ positive
    linarith
  · apply lt_of_mul_lt_mul_right _ positive.le
    linarith

/-- What moving the point leaves of a number. -/
theorem Moves.div_eq {exponent : Option Json.Exponent} {m : Nat}
    (h : Moves magnitude scale exponent (some (m, s))) (fits : scale ≤ maxScale) :
    (m / 10 ^ s : ℚ) =
      roundAt maxScale (magnitude / 10 ^ scale * 10 ^ exponent.elim 0 Json.Exponent.shift) := by
  have digits : (magnitude / 10 ^ scale : ℚ) * 10 ^ scale = magnitude :=
    div_mul_cancel₀ _ (by positivity)
  generalize (magnitude / 10 ^ scale : ℚ) = x at digits ⊢
  cases h with
  | stays =>
    refine div_eq_roundAt ?_ fits
    rw [Option.elim_none, zpow_zero, mul_one, digits]
  | @left e negative inside =>
    refine div_eq_roundAt ?_ inside
    rw [Option.elim_some, Json.Exponent.shift, if_pos negative, zpow_neg, zpow_natCast, pow_add,
      mul_comm (10 ^ scale), mul_assoc, ← mul_assoc _ _ (10 ^ scale),
      inv_mul_cancel₀ (by positivity), one_mul, digits]
  | @dropping e near negative beyond =>
    refine div_eq_roundAt_of_dropDigits (by omega) ?_
    rw [Option.elim_some, Json.Exponent.shift, if_pos negative, zpow_neg, zpow_natCast, mul_assoc,
      ← pow_add, Nat.add_sub_cancel' beyond.le, pow_add, mul_comm (10 ^ scale), mul_assoc,
      ← mul_assoc _ _ (10 ^ scale), inv_mul_cancel₀ (by positivity), one_mul, digits]
  | @right e positive within =>
    refine div_eq_roundAt ?_ (Nat.le_trans (Nat.sub_le _ _) fits)
    rw [Option.elim_some, Json.Exponent.shift, if_neg (Bool.eq_false_iff.1 positive), zpow_natCast,
      mul_assoc, ← pow_add, Nat.add_sub_cancel' within, digits]
  | @growing e near positive beyond =>
    refine div_eq_roundAt ?_ (Nat.zero_le _)
    rw [Option.elim_some, Json.Exponent.shift, if_neg (Bool.eq_false_iff.1 positive), zpow_natCast,
      pow_zero, mul_one, mul_pow_of_le digits beyond.le]

/-- The number of the decimal that is read from a token. -/
theorem toRat_of_ofNumber? {n : Json.Number} {d : Decimal} (h : ofNumber? n = some d) :
    d.toRat = n.settled := by
  have size : (d.magnitude / 10 ^ d.scale : ℚ) =
      roundAt maxScale (nearest n.mantissa.size * 10 ^ n.shift) := by
    rw [ofNumber?_eq] at h
    obtain ⟨digits, taken, h⟩ := Option.bind_eq_some_iff.1 h
    obtain ⟨parts, moved, h⟩ := Option.bind_eq_some_iff.1 h
    obtain ⟨_, made⟩ := Option.dite_none_right_eq_some.1 h
    obtain rfl := Option.some.inj made
    have rounds := rounds_of_taken? taken
    have moves := moves_moved? digits.1 digits.2 n.exponent
    rw [moved] at moves
    rw [← rounds.div_eq_nearest n.mantissa.size_nonneg]
    exact moves.div_eq rounds.scale_le
  rcases ofNumber?_cases n with ⟨-, missing⟩ | ⟨-, read, found, readFrom⟩
  · cases h.symm.trans missing
  · obtain rfl := Option.some.inj (h.symm.trans found)
    rw [readFrom.toRat_eq, size, Json.Number.settled]

end Decimal

/-- Two tokens are read as equal values if and only if no decimal is read from any of them, or the
same number is left of both. -/
theorem Value.ofJson_number_beq_iff {m n : Json.Number} :
    (ofJson (.number m) == ofJson (.number n)) = true ↔
      (m.OutOfRange ∧ n.OutOfRange) ∨
        (¬m.OutOfRange ∧ ¬n.OutOfRange ∧ m.settled = n.settled) := by
  rw [ofJson, ofJson]
  rcases Decimal.ofNumber?_cases m with ⟨beyond, missing⟩ | ⟨inside, d, found, -⟩
  · rcases Decimal.ofNumber?_cases n with ⟨beyond', missing'⟩ | ⟨inside', e, found', -⟩
    · rw [missing, missing']
      exact iff_of_true (BEq.refl _) (.inl ⟨beyond, beyond'⟩)
    · rw [missing, found']
      exact iff_of_false Bool.false_ne_true (by tauto)
  · rcases Decimal.ofNumber?_cases n with ⟨beyond', missing'⟩ | ⟨inside', e, found', -⟩
    · rw [found, missing']
      exact iff_of_false Bool.false_ne_true (by tauto)
    · have same : (number d == number e) = true ↔ m.settled = n.settled := by
        rw [← Decimal.toRat_of_ofNumber? found, ← Decimal.toRat_of_ofNumber? found']
        exact Decimal.beq_iff_toRat_eq
      rw [found, found']
      exact same.trans (by tauto)

/-! ## Spellings that keep their digits -/

open Decimal in
/-- No digit is lost before the point moves: it does not move at all, or the exponent can be read
and the mantissa is held. -/
def Json.Number.KeepsDigits (n : Json.Number) : Prop :=
  n.exponent = none ∨ (∃ e, n.exponent = some e ∧ e.magnitude ≤ maxScale) ∧ IsHeld n.mantissa.toRat

namespace Decimal

variable {x : ℚ} {n : Json.Number}

theorem lt_of_isHeld (held : IsHeld x) : x < limit - 1 / 2 := by
  obtain ⟨d, rfl⟩ := held
  have bound := d.toRat_le
  norm_num [limit] at bound ⊢
  linarith

/-- Rounding once more to the largest scale changes nothing. -/
theorem roundAt_nearest (nonneg : 0 ≤ x) : roundAt maxScale (nearest x) = nearest x := by
  have floor : 0 ≤ ⌊x * 10 ^ room x + 1 / 2⌋ := Int.floor_nonneg.2 (by positivity)
  obtain ⟨magnitude, digits⟩ := Int.eq_ofNat_of_zero_le floor
  have number : nearest x * 10 ^ room x = magnitude := by
    rw [nearest, roundAt, digits, Int.cast_natCast]
    exact div_mul_cancel₀ _ (by positivity)
  exact roundAt_of_mul_eq number (room_le x)

theorem roundAt_of_isHeld (held : IsHeld x) (nonneg : 0 ≤ x) : roundAt maxScale x = x := by
  obtain ⟨magnitude, scale, -, fits, number⟩ := held.exists_mul_eq nonneg
  exact roundAt_of_mul_eq number fits

/-- A number with the digits of one that is held is held as well, unless it is too small for all of
them. -/
theorem isHeld_mul_zpow (held : IsHeld x) (nonneg : 0 ≤ x) {places : ℤ}
    (inside : x * 10 ^ places < limit - 1 / 2)
    (large : limit - 1 / 2 ≤ x * 10 ^ places * 10 ^ maxScale) : IsHeld (x * 10 ^ places) := by
  obtain ⟨magnitude, scale, bounded, fits, number⟩ := held.exists_mul_eq nonneg
  rcases le_total (scale : ℤ) places with right | left
  · obtain ⟨count, rfl⟩ := Int.le.dest right
    have whole : x * 10 ^ ((scale : ℤ) + count) = (magnitude * 10 ^ count : ℕ) := by
      rw [zpow_add₀ (by norm_num), zpow_natCast, zpow_natCast, ← mul_assoc, number]
      push_cast
      rfl
    have small : magnitude * 10 ^ count < limit := by
      have : ((magnitude * 10 ^ count : ℕ) : ℚ) < limit := by linarith
      exact_mod_cast this
    refine isHeld_of_mul_eq small (Nat.zero_le _) ?_
    rw [pow_zero, mul_one, whole]
  · obtain ⟨count, split⟩ := Int.le.dest left
    have digits : x * 10 ^ places * 10 ^ count = magnitude := by
      rw [mul_assoc, ← zpow_natCast 10 count, ← zpow_add₀ (by norm_num), split, zpow_natCast,
        number]
    refine isHeld_of_mul_eq bounded ?_ digits
    -- beyond the largest scale, the magnitude would have to be too large
    by_contra beyond
    have moved : 0 ≤ x * 10 ^ places := mul_nonneg nonneg (zpow_nonneg (by norm_num) _)
    have fewer : x * 10 ^ places * 10 ^ maxScale ≤ x * 10 ^ places * 10 ^ count := by
      gcongr
      · norm_num
      · omega
    have bounded : (magnitude : ℚ) + 1 ≤ limit := by exact_mod_cast bounded
    linarith

/-- The second rounding of a number whose digits are held is the only one. -/
theorem roundAt_mul_zpow (held : IsHeld x) (nonneg : 0 ≤ x) {places : ℤ}
    (inside : x * 10 ^ places < limit - 1 / 2) :
    roundAt maxScale (x * 10 ^ places) = nearest (x * 10 ^ places) := by
  by_cases small : x * 10 ^ places * 10 ^ maxScale < limit - 1 / 2
  · -- there is room for the largest scale
    rw [nearest, le_antisymm (room_le _) (le_room le_rfl small)]
  · have moved : 0 ≤ x * 10 ^ places := mul_nonneg nonneg (zpow_nonneg (by norm_num) _)
    have held := isHeld_mul_zpow held nonneg inside (not_lt.1 small)
    rw [roundAt_of_isHeld held moved, nearest_of_isHeld held moved]

/-- Nothing but the number decides what is left of a token that keeps its digits. -/
theorem settled_of_keepsDigits (keeps : n.KeepsDigits) (inside : n.size < limit - 1 / 2) :
    n.settled = if n.negative then -nearest n.size else nearest n.size := by
  have size : roundAt maxScale (nearest n.mantissa.size * 10 ^ n.shift) = nearest n.size := by
    rw [n.size_eq_mul_zpow] at inside ⊢
    rcases keeps with none | ⟨-, held⟩
    · rw [Json.Number.shift, none, Option.elim_none, zpow_zero, mul_one, mul_one]
      exact roundAt_nearest n.mantissa.size_nonneg
    · rw [← isHeld_abs_iff, Json.Number.abs_toRat] at held
      rw [nearest_of_isHeld held n.mantissa.size_nonneg]
      exact roundAt_mul_zpow held n.mantissa.size_nonneg inside
  rw [Json.Number.settled, size]

theorem outOfRange_iff_of_keepsDigits (keeps : n.KeepsDigits) :
    n.OutOfRange ↔ limit - 1 / 2 ≤ n.size := by
  rw [Json.Number.OutOfRange, Json.Number.abs_toRat, Json.Number.abs_toRat]
  rcases keeps with none | ⟨⟨e, exponent, near⟩, held⟩
  · rw [n.mantissa_of_exponent_eq_none none, none]
    simp
  · rw [← isHeld_abs_iff, Json.Number.abs_toRat] at held
    have inside := lt_of_isHeld held
    constructor
    · rintro (⟨e', exponent', far⟩ | mantissa | number)
      · obtain rfl := Option.some.inj (exponent.symm.trans exponent')
        exact absurd near (Nat.not_le.2 far)
      · exact absurd inside mantissa.not_gt
      · exact number
    · intro number
      exact .inr (.inr number)

end Decimal

/-- Two spellings of one number are read as equal values, or both are not represented, if both keep
their digits. In general they are if and only if both are out of range, or none is and the same is
left of both numbers. -/
theorem Value.ofJson_number_agree {m n : Json.Number} (same : m.toRat = n.toRat) :
    (m.KeepsDigits → n.KeepsDigits → (ofJson (.number m) == ofJson (.number n)) = true) ∧
      ((ofJson (.number m) == ofJson (.number n)) = true ↔
        (m.OutOfRange ∧ n.OutOfRange) ∨
          (¬m.OutOfRange ∧ ¬n.OutOfRange ∧ m.settled = n.settled)) := by
  refine ⟨fun keeps keeps' => ?_, ofJson_number_beq_iff⟩
  have size : m.size = n.size := by rw [← Json.Number.abs_toRat, same, Json.Number.abs_toRat]
  rw [ofJson_number_beq_iff, Decimal.outOfRange_iff_of_keepsDigits keeps,
    Decimal.outOfRange_iff_of_keepsDigits keeps', size]
  by_cases beyond : Decimal.limit - 1 / 2 ≤ n.size
  · exact .inl ⟨beyond, beyond⟩
  · have inside := not_le.1 beyond
    refine .inr ⟨beyond, beyond, ?_⟩
    rw [Decimal.settled_of_keepsDigits keeps (size ▸ inside),
      Decimal.settled_of_keepsDigits keeps' inside, size]
    -- the tokens have the same sign, or nothing but zeros
    rcases Json.Number.negative_eq_or_size_eq_zero same with sign | zero
    · rw [sign]
    · rw [zero, Decimal.nearest_zero, neg_zero, ite_self, ite_self]

/-- A token with an exponent of three halves of the smallest decimal above zero. -/
def Json.Number.shiftedHalf : Json.Number :=
  ⟨false, 1, Digit.ofNat 1 5, some (.ofInt (-28))⟩

/-- The token of the same number without an exponent. -/
def Json.Number.plainHalf : Json.Number := ⟨false, 0, Digit.ofNat 29 15, none⟩

theorem Json.Number.toRat_shiftedHalf : shiftedHalf.toRat = 15 / 10 ^ 29 := by
  have coefficient : shiftedHalf.coefficient = 15 := by decide
  have power : shiftedHalf.power = -29 := by decide
  have positive : shiftedHalf.toRat = shiftedHalf.size := rfl
  rw [positive, size, coefficient, power]
  norm_num

theorem Json.Number.toRat_plainHalf : plainHalf.toRat = 15 / 10 ^ 29 := by
  have coefficient : plainHalf.coefficient = 15 := by decide
  have power : plainHalf.power = -29 := by decide
  have positive : plainHalf.toRat = plainHalf.size := rfl
  rw [positive, size, coefficient, power]
  norm_num

/-- Both spellings of a number that no decimal stands for are rounded to the same decimal. -/
theorem Value.ofJson_number_agree_half :
    Json.Number.shiftedHalf.text = "1.5e-28" ∧
      Json.Number.plainHalf.text = "0.00000000000000000000000000015" ∧
      Json.Number.shiftedHalf.toRat = Json.Number.plainHalf.toRat ∧
      (ofJson (.number .shiftedHalf) == ofJson (.number .plainHalf)) = true := by
  have same := Json.Number.toRat_shiftedHalf.trans Json.Number.toRat_plainHalf.symm
  have digits : Json.Number.shiftedHalf.mantissa.toRat * 10 ^ 1 = (15 : ℕ) := by
    have fraction : Digit.fractionOf (Digit.ofNat 1 5) = 1 / 2 := by
      norm_num [Digit.ofNat, Digit.fractionOf]
    have size : Json.Number.shiftedHalf.mantissa.toRat = 1 + 1 / 2 := by
      rw [← fraction]
      exact_mod_cast Json.Number.shiftedHalf.size_mantissa
    rw [size]
    norm_num
  have held := Decimal.isHeld_of_mul_eq (by decide) (by decide) digits
  refine ⟨by decide, by decide, same, (ofJson_number_agree same).1 ?_ (.inl rfl)⟩
  exact .inr ⟨⟨_, rfl, by decide⟩, held⟩

/-- A zero with a large exponent is not represented, and a zero without an exponent is. -/
theorem Value.exists_toRat_eq_ofJson_bne :
    ∃ m n : Json.Number, m.text = "0" ∧ n.text = "0e+29" ∧ m.toRat = n.toRat ∧
      ofJson (.number m) = .number .zero ∧ ofJson (.number n) = .absent .unrepresentable := by
  refine ⟨⟨false, 0, [], none⟩, ⟨false, 0, [], some ⟨false, 2, [9]⟩⟩, by decide, by decide, ?_, rfl,
    rfl⟩
  simp [Json.Number.toRat, Json.Number.size, Json.Number.coefficient]

end RuleActivation
