import RuleActivation.Bounded
import RuleActivation.Json.Number

/-!
# Integers in texts

An integer is written with decimal digits, at least one, possibly after a sign. Leading zeros are
allowed.

## Main definitions

* `Text.index?`: a natural number of 64 bits, possibly after a plus sign
* `Text.int64?`: an integer of 64 bits, possibly after a sign
-/

namespace RuleActivation.Text

/-- The natural number that a text of digits spells. -/
def natural? (cs : List Char) : Option Nat :=
  if cs.isEmpty then none else (Digit.ofChars? cs).map (Digit.toNat · 0)

/-- The natural number of 64 bits that a text spells. -/
def index? (cs : List Char) : Option Nat :=
  let digits := match cs with
    | '+' :: rest => rest
    | _ => cs
  (natural? digits).filter (· < UInt64.size)

/-- The 64-bit integer that a text spells. -/
def int64? (s : String) : Option Int64 := do
  let (negative, digits) := Json.Number.sign s.toList
  let n ← natural? digits
  bounded? (if negative then -(n : Int) else n)

end RuleActivation.Text
