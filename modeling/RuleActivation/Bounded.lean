/-!
# Integers of 64 bits

## Main definitions

* `bounded?`: an integer as one of 64 bits, if it has no more

## Main results

* `bounded?_toInt`: an integer of 64 bits is found again
-/

namespace RuleActivation

/-- An integer as one of 64 bits, if it has no more. -/
def bounded? (i : Int) : Option Int64 :=
  if Int64.minValue.toInt ≤ i ∧ i ≤ Int64.maxValue.toInt then some (Int64.ofInt i) else none

@[simp] theorem bounded?_toInt (n : Int64) : bounded? n.toInt = some n := by
  rw [bounded?, if_pos ⟨n.minValue_le_toInt, n.toInt_le⟩]
  simp

end RuleActivation
