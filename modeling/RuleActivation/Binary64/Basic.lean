import RuleActivation.Json.Number

/-!
# Binary numbers of 64 bits

A non-negative binary number is a significand of at most 53 bits times a power of two. A ratio of
natural numbers is rounded to the nearest one, a tie to the even significand.

## Main definitions

* `Binary64.nearest`, `Binary64.nearest?`: the binary number nearest to a ratio
* `Binary64.ofNumber?`: the magnitude of a number token, unless it is out of range
* `Binary64.isInteger`: whether a binary number is an integer
-/

namespace RuleActivation

/-- The number `significand * 2 ^ exponent`. -/
structure Binary64 where
  significand : Nat
  exponent : Int
  deriving DecidableEq, Repr

namespace Binary64

/-! ## Ratios -/

/-- A ratio of natural numbers. -/
structure Ratio where
  num : Nat
  den : Nat

/-- The ratio `n * 2 ^ e`. -/
def Ratio.ofBinary (n : Nat) (e : Int) : Ratio :=
  if 0 ≤ e then ⟨n * Nat.pow 2 e.toNat, 1⟩ else ⟨n, Nat.pow 2 (-e).toNat⟩

/-- The ratio `n * 10 ^ e`. -/
def Ratio.ofDecimal (n : Nat) (e : Int) : Ratio :=
  if 0 ≤ e then ⟨n * Nat.pow 10 e.toNat, 1⟩ else ⟨n, Nat.pow 10 (-e).toNat⟩

/-- Whether a ratio is at most another. -/
def Ratio.le (a b : Ratio) : Bool := a.num * b.den ≤ b.num * a.den

/-- The product of two ratios. -/
def Ratio.mul (a b : Ratio) : Ratio := ⟨a.num * b.num, a.den * b.den⟩

/-- The quotient of two ratios. -/
def Ratio.div (a b : Ratio) : Ratio := ⟨a.num * b.den, a.den * b.num⟩

/-- The integer part of a ratio. -/
def Ratio.floor (a : Ratio) : Nat := a.num / a.den

/-- The integer nearest to a ratio; a half goes to the even neighbour. -/
def Ratio.round (a : Ratio) : Nat :=
  let q := a.num / a.den
  let r := a.num % a.den
  if 2 * r > a.den ∨ (2 * r = a.den ∧ q % 2 = 1) then q + 1 else q

/-! ## Rounding -/

/-- The least significand of 53 bits. -/
def leastNormal : Nat := 4503599627370496

/-- The least exponent. -/
def minExponent : Int := -1074

/-- The largest exponent. -/
def maxExponent : Int := 971

/-- The number zero. -/
def zero : Binary64 := ⟨0, minExponent⟩

/-- The exponent for which the quotient of a ratio by its power of two has 53 bits, unless it is
too small. The first guess is right or one too large. -/
def exponentOf (a : Ratio) : Int :=
  let e : Int := (Nat.log2 a.num : Int) - (Nat.log2 a.den : Int) - 52
  let e := if (a.div (.ofBinary 1 e)).floor < leastNormal then e - 1 else e
  max e minExponent

/-- The binary number nearest to a ratio. Rounding may carry into one more bit. -/
def nearest (a : Ratio) : Binary64 :=
  if a.num = 0 then zero
  else
    let e := exponentOf a
    let n := (a.div (.ofBinary 1 e)).round
    if n = 2 * leastNormal then ⟨leastNormal, e + 1⟩ else ⟨n, e⟩

/-- The binary number nearest to a ratio, unless the ratio is out of range. -/
def nearest? (a : Ratio) : Option Binary64 :=
  let x := nearest a
  if x.exponent > maxExponent then none else some x

/-- The value of a binary number. -/
def value (x : Binary64) : Ratio := .ofBinary x.significand x.exponent

/-! ## Number tokens -/

/-- The binary number nearest to the magnitude of a number token, unless it is out of range. A
power of ten beyond all digits decides by itself. -/
def ofNumber? (n : Json.Number) : Option Binary64 :=
  if n.coefficient = 0 ∨ n.power < -((Nat.log2 n.coefficient : Int) + 400) then some zero
  else if n.power > 400 then none
  else nearest? (.ofDecimal n.coefficient n.power)

/-- Whether a binary number is an integer. -/
def isInteger (x : Binary64) : Bool :=
  0 ≤ x.exponent || x.significand % Nat.pow 2 (-x.exponent).toNat == 0

end Binary64

end RuleActivation
