import RuleActivation.Json.Number

/-!
# Decimals

A decimal is a sign, a magnitude of at most 96 bits and a scale, which is the number of its fraction
digits and at most 28. It keeps its scale, so that `1.50` and `1.5` are two decimals, but they are
equal and compare as numbers. A zero has a sign only if it is what rounding has left of a negative
number.

## Main definitions

* `Decimal`: a sign, a magnitude and a scale within their limits
* `Decimal.coefficient`: the sign and the magnitude as an integer
* `Decimal.lt`: the order of the numbers, beside `==`
* `Decimal.text`: the text with the decimal's own scale
* `Decimal.reduced`: the equal decimal of least scale
* `Decimal.addInt?`: the sum with an integer

## Main results

* `beq_iff`, `lt_iff`: the comparisons as statements about integers
-/

namespace RuleActivation

/-- The bound below which magnitudes stay: the power `2 ^ 96`. -/
def Decimal.limit : Nat := 79228162514264337593543950336

/-- The largest scale. -/
def Decimal.maxScale : Nat := 28

/-- The number `magnitude / 10 ^ scale` with a sign. -/
structure Decimal where
  negative : Bool
  magnitude : Nat
  scale : Nat
  magnitude_lt : magnitude < Decimal.limit
  scale_le : scale ≤ Decimal.maxScale
  deriving Repr

namespace Decimal

/-- A power of ten. -/
def tenPow (n : Nat) : Nat := Nat.pow 10 n

/-- The integer that a decimal divides by its power of ten. -/
def coefficient (d : Decimal) : Int := if d.negative then -(d.magnitude : Int) else d.magnitude

/-- The decimal with a given sign, magnitude and scale, if they are within their limits. -/
def ofParts? (negative : Bool) (magnitude scale : Nat) : Option Decimal :=
  if h : magnitude < limit ∧ scale ≤ maxScale then some ⟨negative, magnitude, scale, h.1, h.2⟩
  else none

/-- The decimal with a given coefficient and scale, if they are within their limits. -/
def make? (coefficient : Int) (scale : Nat) : Option Decimal :=
  ofParts? (coefficient < 0) coefficient.natAbs scale

/-- The number zero. -/
def zero : Decimal := ⟨false, 0, 0, by decide, by decide⟩

instance : Inhabited Decimal := ⟨zero⟩

/-! ## Comparison -/

instance : BEq Decimal where
  beq a b := a.coefficient * tenPow b.scale == b.coefficient * tenPow a.scale

/-- Whether a number is smaller than another. -/
def lt (a b : Decimal) : Bool :=
  a.coefficient * tenPow b.scale < b.coefficient * tenPow a.scale

theorem beq_iff {a b : Decimal} :
    (a == b) = true ↔ a.coefficient * tenPow b.scale = b.coefficient * tenPow a.scale := by
  change ((a.coefficient * tenPow b.scale : Int) == b.coefficient * tenPow a.scale) = true ↔ _
  exact beq_iff_eq

theorem lt_iff {a b : Decimal} :
    a.lt b = true ↔ a.coefficient * tenPow b.scale < b.coefficient * tenPow a.scale :=
  decide_eq_true_iff

/-- The largest of `first` and the numbers of a list; of equal numbers the last one. -/
def maximum (first : Decimal) (rest : List Decimal) : Decimal :=
  rest.foldl (fun best d => if d.lt best then best else d) first

/-! ## Text -/

/-- The number token of a decimal, with as many fraction digits as its scale. -/
def toNumber (d : Decimal) : Json.Number where
  negative := d.negative
  whole := d.magnitude / tenPow d.scale
  fraction := Digit.ofNat d.scale (d.magnitude % tenPow d.scale)
  exponent := none

/-- The text of a decimal, with as many fraction digits as its scale. -/
def text (d : Decimal) : String := d.toNumber.text

/-- The magnitude and the scale without the trailing zeros of the fraction. -/
def stripZeros (magnitude : Nat) : (scale : Nat) → Nat × Nat
  | 0 => (magnitude, 0)
  | scale + 1 =>
    if magnitude % 10 = 0 then stripZeros (magnitude / 10) scale else (magnitude, scale + 1)

theorem stripZeros_magnitude_le (magnitude scale : Nat) :
    (stripZeros magnitude scale).1 ≤ magnitude := by
  induction scale generalizing magnitude with
  | zero => simp [stripZeros]
  | succ scale ih =>
    simp only [stripZeros]
    split
    · exact Nat.le_trans (ih _) (Nat.div_le_self _ _)
    · exact Nat.le_refl _

theorem stripZeros_scale_le (magnitude scale : Nat) :
    (stripZeros magnitude scale).2 ≤ scale := by
  induction scale generalizing magnitude with
  | zero => simp [stripZeros]
  | succ scale ih =>
    simp only [stripZeros]
    split
    · exact Nat.le_trans (ih _) (Nat.le_succ scale)
    · simp

/-- The equal decimal without trailing zeros of the fraction, and without the sign of a zero. -/
def reduced (d : Decimal) : Decimal where
  negative := d.negative && d.magnitude != 0
  magnitude := (stripZeros d.magnitude d.scale).1
  scale := (stripZeros d.magnitude d.scale).2
  magnitude_lt := Nat.lt_of_le_of_lt (stripZeros_magnitude_le _ _) d.magnitude_lt
  scale_le := Nat.le_trans (stripZeros_scale_le _ _) d.scale_le

/-! ## Addition -/

/-- A tenth of an integer, rounded to the nearest integer; a half goes to the even neighbour. -/
def roundTenth (n : Int) : Int :=
  let quotient := n.natAbs / 10
  let digit := n.natAbs % 10
  let magnitude := if digit > 5 ∨ (digit = 5 ∧ quotient % 2 = 1) then quotient + 1 else quotient
  if n < 0 then -(magnitude : Int) else magnitude

/-- The sum of a decimal and an integer. A sum that exceeds the magnitude gives up one fraction
digit, which is enough for a sum with one; without one to give up there is no sum. The sum of zero
and an integer has scale zero. -/
def addInt? (d : Decimal) (k : Int) : Option Decimal :=
  if d.magnitude = 0 then make? k 0
  else
    let sum := d.coefficient + k * tenPow d.scale
    match make? sum d.scale with
    | some r => some r
    | none => if d.scale = 0 then none else make? (roundTenth sum) (d.scale - 1)

end Decimal

end RuleActivation
