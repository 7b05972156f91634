import RuleActivation.Binary64.Basic

/-!
# Shortest decimal text

The shortest text of a binary number has the fewest digits among the decimal numbers that round to
it, and lies nearest to it among those. It is positional as long as the point stands within or
near the digits, and always has a fraction then; otherwise it has an exponent.

## Main definitions

* `Binary64.shortestDecimal`: the shortest decimal number that rounds to a binary number
* `Binary64.shortest`: the shortest text of a binary number
* `Binary64.hundredths`: a binary number rounded to two places
-/

namespace RuleActivation.Binary64

/-! ## Shortest digits -/

/-- The power of ten of the first digit of a ratio that is not zero. -/
def leadingPower (a : Ratio) : Int :=
  if a.den ≤ a.num then ((Nat.toDigits 10 a.floor).length : Int) - 1
  else -((Nat.toDigits 10 ((a.den - 1) / a.num)).length : Int)

/-- Whether a ratio rounds to a binary number that is not zero. Below a power of two the binary
numbers are twice as dense as above it. -/
def isNearest (x : Binary64) (a : Ratio) : Bool :=
  let below := if x.significand = leastNormal ∧ minExponent < x.exponent then 1 else 2
  let low := Ratio.ofBinary (4 * x.significand - below) (x.exponent - 2)
  let high := Ratio.ofBinary (4 * x.significand + 2) (x.exponent - 2)
  if x.significand % 2 = 0 then low.le a && a.le high else !a.le low && !high.le a

/-- The decimal number nearest to a binary number among its two neighbours with a given number of
digits that round to it: an integer and the power of ten it is multiplied by. -/
def withDigits? (x : Binary64) (count : Nat) : Option (Nat × Int) :=
  let power := leadingPower x.value - count + 1
  let scaled := x.value.div (.ofDecimal 1 power)
  let lower := scaled.floor
  match isNearest x (.ofDecimal lower power), isNearest x (.ofDecimal (lower + 1) power) with
  | true, true => some (scaled.round, power)
  | true, false => some (lower, power)
  | false, true => some (lower + 1, power)
  | false, false => none

/-- The shortest decimal number that rounds to a binary number. Its last digit is not zero unless
all are. Seventeen digits always suffice; the upper neighbour of the digit nine has two. -/
def shortestDecimal (x : Binary64) : Nat × Int :=
  if x.significand = 0 then (0, 0)
  else match (List.range 17).findSome? fun i => withDigits? x (i + 1) with
    | some (10, power) => (1, power + 1)
    | some found => found
    | none => (0, 0)

/-! ## Text -/

/-- The number token of `n * 10 ^ power` in positional notation, with a fraction. -/
def positional (n : Nat) (power : Int) : Json.Number :=
  if 0 ≤ power then ⟨false, n * Nat.pow 10 power.toNat, Digit.ofNat 1 0, none⟩
  else
    let places := (-power).toNat
    ⟨false, n / Nat.pow 10 places, Digit.ofNat places (n % Nat.pow 10 places), none⟩

/-- The number token of `n * 10 ^ power`, where `n` has `count` digits, with one digit before the
point and an exponent. -/
def scientific (n count : Nat) (power : Int) : Json.Number :=
  let places := count - 1
  let exponent := power + places
  ⟨false, n / Nat.pow 10 places, Digit.ofNat places (n % Nat.pow 10 places),
    some (.ofInt exponent)⟩

/-- The shortest text of a binary number: positional if at most sixteen digits stand before the
point and at most four zeros between the point and the first digit. -/
def shortest (x : Binary64) : Json.Number :=
  let (n, power) := x.shortestDecimal
  let count := (Nat.toDigits 10 n).length
  let point := power + count
  if -5 < point ∧ point ≤ 16 then positional n power else scientific n count power

/-! ## Fixed places -/

/-- A binary number rounded to two places; a half goes to the even neighbour. -/
def hundredths (x : Binary64) : Json.Number :=
  let n := (Ratio.mk (100 * x.value.num) x.value.den).round
  ⟨false, n / 100, Digit.ofNat 2 (n % 100), none⟩

end RuleActivation.Binary64
