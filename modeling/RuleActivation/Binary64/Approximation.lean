import RuleActivation.Binary64.Basic

/-!
# Approximations of number tokens

A number token can be read into a word of 64 bits and a power of ten. Digits for which the word has
no room are dropped: those of the whole part raise the power of ten, those of the fraction have no
effect. The word is then multiplied or divided by the power of ten, at most 308 places at a time,
and every step rounds. The result may therefore miss the nearest binary number by a little, and it
may be out of range when that one is not.

## Main definitions

* `Binary64.raise?`, `Binary64.lower`: multiplying and dividing by a power of ten
* `Binary64.approximate`: the approximation of the magnitude of a number token
-/

namespace RuleActivation.Binary64

/-! ## The word -/

/-- The word after the digits of a whole part, and the number of those that have been dropped. -/
def takeWhole (word : Nat) : List Digit → Nat × Nat
  | [] => (word, 0)
  | d :: ds =>
    if 10 * word + d.val < UInt64.size then takeWhole (10 * word + d.val) ds
    else (word, ds.length + 1)

/-- The word after the digits of a fraction, and the number of those that have been taken. -/
def takeFraction (word : Nat) : List Digit → Nat × Nat
  | [] => (word, 0)
  | d :: ds =>
    if 10 * word + d.val < UInt64.size then
      let (word, taken) := takeFraction (10 * word + d.val) ds
      (word, taken + 1)
    else (word, 0)

/-- The bound below which exponents stay: the power `2 ^ 31`. -/
def exponentLimit : Nat := 2147483648

/-- The magnitude of an exponent of the given digits, unless it is too large. In this case the
digits after the one that makes it so are left. -/
def takeExponent (magnitude : Nat) : List Digit → Except (List Digit) Nat
  | [] => .ok magnitude
  | d :: ds =>
    if 10 * magnitude + d.val < exponentLimit then takeExponent (10 * magnitude + d.val) ds
    else .error ds

/-! ## The power of ten -/

/-- The number of places of one step. -/
def maxPlaces : Nat := 308

/-- The binary number nearest to a power of ten. -/
def tenTo (places : Nat) : Binary64 := nearest (.ofDecimal 1 places)

/-- A binary number times a power of ten, unless the result or the power is out of range. -/
def raise? (x : Binary64) (places : Nat) : Option Binary64 :=
  if maxPlaces < places then none else nearest? (x.value.mul (tenTo places).value)

/-- A binary number divided by a power of ten in one step. -/
def lowerOnce (x : Binary64) (places : Nat) : Binary64 :=
  nearest (x.value.div (tenTo places).value)

/-- A word divided by a power of ten. Two whole steps leave nothing of it. -/
def lower (x : Binary64) (places : Nat) : Binary64 :=
  if places ≤ maxPlaces then lowerOnce x places
  else if places ≤ 2 * maxPlaces then lowerOnce (lowerOnce x maxPlaces) (places - maxPlaces)
  else zero

/-- A word times a power of ten with any exponent, unless it is out of range. -/
def scale? (x : Binary64) (power : Int) : Option Binary64 :=
  if x.significand = 0 then some zero
  else if 0 ≤ power then raise? x power.toNat
  else some (lower x (-power).toNat)

/-! ## Number tokens -/

/-- The approximation of the magnitude of a number token. If it is out of range, those digits of
the exponent are left that have not been read until this is clear. -/
def approximate (n : Json.Number) : Except (List Digit) Binary64 :=
  let (word, dropped) := takeWhole 0 (Digit.natural n.whole)
  let (word, taken) := takeFraction word n.fraction
  let power : Int := (dropped : Int) - taken
  let scaled (power : Int) : Except (List Digit) Binary64 :=
    (scale? (nearest (.ofDecimal word 0)) power).elim (.error []) .ok
  match n.exponent with
  | none => scaled power
  | some e =>
    match takeExponent 0 e.digits with
    | .ok magnitude => scaled (if e.negative then power - magnitude else power + magnitude)
    | .error rest => if word = 0 ∨ e.negative then .ok zero else .error rest

end RuleActivation.Binary64
