import RuleActivation.Proofs.Json.Number
import RuleActivation.Text.Integer

/-!
# Reading integers back

The decimal digits of a natural number are read as this number, and the text of an integer of 64
bits as this integer.

## Main results

* `Text.index?_toDigits`: natural numbers of 64 bits
* `Text.int64?_toString`: integers of 64 bits
-/

namespace RuleActivation

/-! ## Digits -/

namespace Digit

theorem ofChars?_map_toChar (ds : List Digit) : ofChars? (ds.map toChar) = some ds := by
  induction ds with
  | nil => rfl
  | cons d ds ih =>
    rw [ofChars?, List.map_cons, List.mapM_cons, ofChar?_toChar, ← ofChars?, ih]
    rfl

theorem toChar_ne_point : ∀ d : Digit, d.toChar ≠ '.' := by decide

theorem toChar_ne_plus : ∀ d : Digit, d.toChar ≠ '+' := by decide

theorem toChar_ne_minus : ∀ d : Digit, d.toChar ≠ '-' := by decide

/-- The digits of a natural number have no other characters among them. -/
theorem not_mem_toDigits {c : Char} (other : ∀ d : Digit, d.toChar ≠ c) (n : Nat) :
    c ∉ Nat.toDigits 10 n := by
  rw [← map_toChar_natural, List.mem_map]
  rintro ⟨d, -, same⟩
  exact other d same

end Digit

namespace Text

/-! ## Indices -/

theorem natural?_toDigits (n : Nat) : natural? (Nat.toDigits 10 n) = some n := by
  have digits : (Nat.toDigits 10 n).isEmpty = false := by
    simpa [← Digit.map_toChar_natural] using Digit.natural_ne_nil n
  rw [natural?, digits, if_neg (by simp), ← Digit.map_toChar_natural, Digit.ofChars?_map_toChar,
    Option.map_some, Digit.toNat_natural]

/-- An index is read back if it has 64 bits. -/
theorem index?_toDigits (n : Nat) :
    index? (Nat.toDigits 10 n) = if n < UInt64.size then some n else none := by
  unfold index?
  split
  · rename_i rest h
    exact absurd (h ▸ List.mem_cons_self) (Digit.not_mem_toDigits Digit.toChar_ne_plus n)
  · simp [natural?_toDigits, Option.filter_some]

theorem lt_of_index?_eq_some {cs : List Char} {n : Nat} (h : index? cs = some n) :
    n < UInt64.size := of_decide_eq_true (Option.filter_eq_some_iff.1 h).2

/-! ## Integers -/

theorem toList_toString (i : Int) :
    (toString i).toList =
      if i < 0 then '-' :: Nat.toDigits 10 i.natAbs else Nat.toDigits 10 i.natAbs := by
  cases i <;> simp [toString, Int.repr, Nat.repr]

/-- The text of an integer has a sign if the integer is negative. -/
theorem sign_toList_toString (i : Int) :
    Json.Number.sign (toString i).toList = (decide (i < 0), Nat.toDigits 10 i.natAbs) := by
  rw [toList_toString]
  by_cases negative : i < 0
  · rw [if_pos negative, decide_eq_true negative]
    rfl
  · have unsigned {c : Char} (other : ∀ d : Digit, d.toChar ≠ c) (rest : List Char) :
        Nat.toDigits 10 i.natAbs ≠ c :: rest :=
      fun h => Digit.not_mem_toDigits other i.natAbs (h ▸ List.mem_cons_self)
    rw [if_neg negative, decide_eq_false negative,
      Json.Number.sign.eq_2 _ (unsigned Digit.toChar_ne_plus),
      Json.Number.minus.eq_2 _ (unsigned Digit.toChar_ne_minus)]

/-- An integer of 64 bits is read back. -/
theorem int64?_toString (n : Int64) : int64? (toString n.toInt) = some n := by
  have value : (if n.toInt < 0 then -(n.toInt.natAbs : Int) else n.toInt.natAbs) = n.toInt := by
    split <;> omega
  rw [int64?, sign_toList_toString]
  simp only [natural?_toDigits, Option.bind_eq_bind, Option.bind_some, decide_eq_true_eq, value,
    bounded?_toInt]

end Text

end RuleActivation
