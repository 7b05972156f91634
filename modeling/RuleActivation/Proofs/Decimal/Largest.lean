import Mathlib.Data.Finset.Card
import RuleActivation.Proofs.Decimal.Spelling

/-!
# The largest decimal

Only the largest decimal has no larger one. There is a smaller one, and a list needs at least as
many numbers as there are magnitudes to leave no decimal out.

## Main definitions

* `Decimal.largest`: the largest decimal

## Main results

* `toRat_le_largest`: no decimal is larger
* `addInt?_one_eq_none_iff`: the decimals without one more
* `exists_addInt?_neg_one_eq_some`: they have one less
* `exists_forall_toRat_ne`: a shorter list leaves a decimal out
-/

namespace RuleActivation.Decimal

variable {d : Decimal}

theorem pred_limit_lt : limit - 1 < limit := by decide

/-- The largest decimal. -/
def largest : Decimal := ⟨false, limit - 1, 0, pred_limit_lt, Nat.zero_le _⟩

theorem toRat_of_natural (magnitude : Nat) (small : magnitude < limit) :
    toRat ⟨false, magnitude, 0, small, by decide⟩ = magnitude := by
  simp [toRat, coefficient, tenPow_eq]

theorem toRat_largest : largest.toRat = (limit - 1 : ℕ) :=
  toRat_of_natural (limit - 1) pred_limit_lt

theorem toRat_le_largest (d : Decimal) : d.toRat ≤ largest.toRat := by
  rw [toRat_largest]
  exact toRat_le d

/-- The decimals without one more are those that are equal to the largest one. -/
theorem addInt?_one_eq_none_iff : d.addInt? 1 = none ↔ (d == largest) = true := by
  rw [beq_iff_toRat_eq]
  constructor
  · intro none
    exact le_antisymm (toRat_le_largest d) (toRat_le_of_addInt?_one_eq_none none largest)
  · intro same
    rw [Option.eq_none_iff_forall_ne_some]
    intro r more
    have larger := lt_of_addInt?_one more
    rw [same] at larger
    exact larger.not_ge (toRat_le_largest r)

/-- A decimal without one more has one less. -/
theorem exists_addInt?_neg_one_eq_some (none : d.addInt? 1 = none) :
    ∃ r, d.addInt? (-1) = some r := by
  have same := beq_iff_toRat_eq.1 (addInt?_one_eq_none_iff.1 none)
  have below := toRat_of_natural (limit - 2) (by decide)
  obtain ⟨r, less, -⟩ := exists_addInt?_eq_some (d := d) (k := -1) (by decide) <| by
    rw [below, same, toRat_largest, limit]
    norm_num
  exact ⟨r, less⟩

/-- A list with fewer numbers than there are magnitudes leaves a decimal out. -/
theorem exists_forall_toRat_ne {numbers : List Decimal} (short : numbers.length < limit) :
    ∃ d : Decimal, ∀ n ∈ numbers, n.toRat ≠ d.toRat := by
  by_contra all
  push Not at all
  have listed : (Finset.range limit).image (Nat.cast : ℕ → ℚ) ⊆ (numbers.map toRat).toFinset := by
    intro q mem
    obtain ⟨magnitude, small, rfl⟩ := Finset.mem_image.1 mem
    obtain ⟨n, mem, same⟩ := all ⟨false, magnitude, 0, Finset.mem_range.1 small, by decide⟩
    rw [toRat_of_natural magnitude (Finset.mem_range.1 small)] at same
    rw [List.mem_toFinset, ← same]
    exact List.mem_map_of_mem mem
  have enough := Finset.card_le_card listed
  rw [Finset.card_image_of_injective _ Nat.cast_injective, Finset.card_range] at enough
  have bounded := List.toFinset_card_le (numbers.map toRat)
  rw [List.length_map] at bounded
  omega

end RuleActivation.Decimal
