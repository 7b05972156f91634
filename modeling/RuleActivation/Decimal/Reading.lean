import RuleActivation.Decimal.Basic

/-!
# Reading decimals

A number token is read from left to right. Its whole part has to fit the magnitude. Fraction
digits are taken as long as magnitude and scale allow; the first digit that is not taken
rounds the magnitude, and the digits after it are dropped. An exponent moves the point. The sign
counts unless nothing but zeros has been taken before the point moves.

## Main definitions

* `Decimal.takeFraction`: the fraction digits that are taken
* `Decimal.shift`: moving the point
* `Decimal.ofNumber?`: the decimal of a number token, if it has one
-/

namespace RuleActivation.Decimal

/-- A magnitude after its first dropped digit, with its scale: a digit from five on rounds
away from zero. If this exceeds the magnitude, one more fraction digit is given up. -/
def roundOff (magnitude scale : Nat) (dropped : Digit) : Option (Nat × Nat) :=
  if dropped.val < 5 then some (magnitude, scale)
  else if magnitude + 1 < limit then some (magnitude + 1, scale)
  else if scale = 0 then none
  else some ((magnitude + 5) / 10, scale - 1)

/-- The magnitude and the scale after the digits of a fraction. -/
def takeFraction (magnitude scale : Nat) : List Digit → Option (Nat × Nat)
  | [] => some (magnitude, scale)
  | d :: ds =>
    if 10 * magnitude + d.val < limit ∧ scale < maxScale then
      takeFraction (10 * magnitude + d.val) (scale + 1) ds
    else roundOff magnitude scale d

/-- A magnitude without its last `count` digits, rounded; a half goes away from zero. -/
def dropDigits (magnitude count : Nat) : Nat := (magnitude + tenPow count / 2) / tenPow count

/-- The magnitude and the scale after the point has moved by an exponent. To the left, digits
beyond the largest scale are rounded off; to the right, the magnitude grows as soon as the
scale is used up. Exponents beyond the largest scale are not read. -/
def shift (magnitude scale : Nat) (e : Json.Exponent) : Option (Nat × Nat) :=
  let places := e.magnitude
  if places > maxScale then none
  else if e.negative then
    if scale + places ≤ maxScale then some (magnitude, scale + places)
    else some (dropDigits magnitude (scale + places - maxScale), maxScale)
  else if places ≤ scale then some (magnitude, scale - places)
  else some (magnitude * tenPow (places - scale), 0)

/-- The decimal of a number token, if it has one. The digits are rounded before the point moves. -/
def ofNumber? (n : Json.Number) : Option Decimal := do
  let (magnitude, scale) ←
    if n.whole < limit then takeFraction n.whole 0 n.fraction else none
  let negative := n.negative && magnitude != 0
  let (magnitude, scale) ← match n.exponent with
    | none => some (magnitude, scale)
    | some e => shift magnitude scale e
  ofParts? negative magnitude scale

end RuleActivation.Decimal
