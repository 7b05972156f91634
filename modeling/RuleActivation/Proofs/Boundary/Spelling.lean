import RuleActivation.Boundary
import RuleActivation.Proofs.Decimal.Spelling
import RuleActivation.Proofs.Success
import RuleActivation.Proofs.Value.Equality

/-!
# Boundary values of equal literals

Equal values are written as the same JSON value, and equal literals have equal boundary values. If
there is no boundary value, the reason is the same for both: it shows a number only if there is no
larger one, and this number has one spelling only.

## Main results

* `Value.toJson_eq_of_beq`: equal values are written in the same way
* `Operator.satisfying_of_beq`, `Operator.negative_of_beq`: equal literals have equal boundary
  values
-/

namespace RuleActivation

open List (Forall₂)

/-! ## Equal values -/

namespace Value

mutual

/-- Equal values are written in the same way. -/
theorem toJson_eq_of_beq {a b : Value} (h : (a == b) = true) : a.toJson = b.toJson := by
  cases beq_iff_equal.1 h with
  | number h => rw [toJson, toJson, Decimal.reduced_eq_of_beq h]
  | list h => rw [toJson, toJson, toJsonItems_eq_of_sameItems h]
  | bool _ | text _ | absent _ => rfl

theorem toJsonItems_eq_of_sameItems {as bs : List Value} (h : sameItems as bs = true) :
    toJsonItems as = toJsonItems bs := by
  match as, bs with
  | [], [] => rfl
  | a :: as, b :: bs =>
    obtain ⟨first, others⟩ := sameItems_cons.1 h
    rw [toJsonItems, toJsonItems, toJson_eq_of_beq first, toJsonItems_eq_of_sameItems others]

end

theorem filterMap_asText?_eq {as bs : List Value} (h : sameItems as bs = true) :
    as.filterMap asText? = bs.filterMap asText? := by
  rw [← List.forall₂_eq_eq_eq]
  refine List.rel_filterMap (R := fun a b => (a == b) = true) ?_ (sameItems_iff_forall₂.1 h)
  intro a b equal
  cases beq_iff_equal.1 equal with
  | text s => exact .some rfl
  | _ => exact .none

theorem forall₂_filterMap_asNumber? {as bs : List Value} (h : sameItems as bs = true) :
    Forall₂ (fun d e => (d == e) = true) (as.filterMap asNumber?) (bs.filterMap asNumber?) := by
  refine List.rel_filterMap (R := fun a b => (a == b) = true) ?_ (sameItems_iff_forall₂.1 h)
  intro a b equal
  cases beq_iff_equal.1 equal with
  | number h => exact .some h
  | _ => exact .none

theorem unlistedBool?_congr {as bs : List Value} (h : sameItems as bs = true) :
    unlistedBool? as = unlistedBool? bs := by
  rw [unlistedBool?, unlistedBool?, contains_congr _ h, contains_congr _ h]

end Value

/-! ## Sums -/

namespace BoundaryFault

theorem orNumber_addInt?_of_beq {d e : Decimal} {k : Int} (small : k.natAbs ≤ 1)
    (h : (d == e) = true) (fault : Decimal → BoundaryFault) :
    SameResult (fun v w => (v == w) = true) ((fault d).orNumber (d.addInt? k))
      ((fault e).orNumber (e.addInt? k)) := by
  rcases Decimal.addInt?_of_beq small h with ⟨r, s, hr, hs, equal⟩ | ⟨-, rfl⟩
  · rw [hr, hs]
    exact .ok (Value.beq_iff_equal.2 (.number equal))
  · exact .refl BEq.refl _

theorem orNumber_distinct_of_beq {d e : Decimal} (h : (d == e) = true) :
    SameResult (fun v w => (v == w) = true)
      ((noDistinct d).orNumber ((d.addInt? 1).or (d.addInt? (-1))))
      ((noDistinct e).orNumber ((e.addInt? 1).or (e.addInt? (-1)))) := by
  rcases Decimal.addInt?_of_beq (k := 1) (by decide) h with ⟨r, s, hr, hs, equal⟩ | ⟨-, rfl⟩
  · rw [hr, hs]
    exact .ok (Value.beq_iff_equal.2 (.number equal))
  · exact .refl BEq.refl _

end BoundaryFault

/-! ## Boundary values -/

/-- Equal lists have equal values outside of them. -/
theorem Value.outside_of_sameItems {as bs : List Value} (h : sameItems as bs = true) :
    SameResult (fun v w => (v == w) = true) (outside as) (outside bs) := by
  match as, bs with
  | [], [] => exact .error _
  | a :: as, b :: bs =>
    obtain ⟨first, others⟩ := sameItems_cons.1 h
    cases beq_iff_equal.1 first with
    | bool b =>
      rw [outside, outside, unlistedBool?_congr h]
      exact .refl BEq.refl _
    | number equal =>
      have largest := Decimal.maximum_beq equal (forall₂_filterMap_asNumber? others)
      exact BoundaryFault.orNumber_addInt?_of_beq (by decide) largest fun _ => .largestListed
    | text s =>
      rw [outside, outside, filterMap_asText?_eq others]
      exact .refl BEq.refl _
    | list _ | absent _ => exact .error _

namespace Operator

variable (op : Operator) {literal literal' : Value}

/-- Equal literals have equal satisfying values. -/
theorem satisfying_of_beq (h : (literal == literal') = true) :
    SameResult (fun v w => (v == w) = true) (op.satisfying literal) (op.satisfying literal') := by
  cases op with
  | equals => exact .ok h
  | contains =>
    cases Value.beq_iff_equal.1 h with
    | text s => exact .ok (BEq.refl _)
    | _ => exact .ok (Value.sameItems_cons.2 ⟨h, rfl⟩)
  | greaterThan =>
    cases Value.beq_iff_equal.1 h with
    | number equal =>
      exact BoundaryFault.orNumber_addInt?_of_beq (by decide) equal BoundaryFault.noGreater
    | _ => exact .error _
  | lessOrEqual =>
    cases Value.beq_iff_equal.1 h with
    | number _ => exact .ok h
    | _ => exact .error _
  | inList =>
    cases Value.beq_iff_equal.1 h with
    | @list as bs items =>
      match as, bs with
      | [], [] => exact .error _
      | a :: as, b :: bs => exact .ok (Value.sameItems_cons.1 items).1
    | _ => exact .error _

/-- Equal literals have equal negative values. -/
theorem negative_of_beq (h : (literal == literal') = true) :
    SameResult (fun v w => (v == w) = true) (op.negative literal) (op.negative literal') := by
  cases op with
  | equals =>
    cases Value.beq_iff_equal.1 h with
    | bool b => exact .ok (BEq.refl _)
    | number equal => exact BoundaryFault.orNumber_distinct_of_beq equal
    | text s => exact .ok (BEq.refl _)
    | list items =>
      have longer := List.rel_append (Value.sameItems_iff_forall₂.1 items)
        (.cons (BEq.refl (Value.bool false)) .nil)
      exact .ok (Value.beq_iff_equal.2 (.list (Value.sameItems_iff_forall₂.2 longer)))
    | absent reason => exact .error _
  | contains =>
    cases Value.beq_iff_equal.1 h with
    | text s => exact .refl BEq.refl _
    | _ => exact .ok (BEq.refl _)
  | greaterThan =>
    cases Value.beq_iff_equal.1 h with
    | number _ => exact .ok h
    | _ => exact .error _
  | lessOrEqual =>
    cases Value.beq_iff_equal.1 h with
    | number equal =>
      exact BoundaryFault.orNumber_addInt?_of_beq (by decide) equal BoundaryFault.noGreater
    | _ => exact .error _
  | inList =>
    cases Value.beq_iff_equal.1 h with
    | list items => exact Value.outside_of_sameItems items
    | _ => exact .error _

end Operator

end RuleActivation
