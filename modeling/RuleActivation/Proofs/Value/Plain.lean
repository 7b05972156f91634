import RuleActivation.Environment
import RuleActivation.Proofs.Dictionary
import RuleActivation.Proofs.Value.Equality

/-!
# What JSON keeps of a value

A value that is written as JSON and read again is its plain value: numbers are reduced, and all
absences have become `null`. Only absences inside of lists can make a difference, because one
that stands alone is never compared.

## Main definitions

* `Value.plain`: what JSON keeps of a value
* `Value.withNull`: a value with `null` for each of its absences
* `Value.isRecordable`: whether the absences inside of a value are all `null`
* `Value.isWhole`: whether there is no absence inside of a value

## Main results

* `Value.ofJson_toJson`, `Environment.ofJson_toJson`: JSON keeps the plain value
* `Value.plain_beq_withNull`: nothing but the reasons for absences is lost
* `Value.plain_beq`: the plain value of a recordable value is equal to it
* `Operator.outcome_plain`: a whole value does not tell a literal from its plain value
-/

namespace RuleActivation

/-! ## Plain values -/

namespace Value

mutual

/-- What JSON keeps of a value. -/
def plain : Value → Value
  | bool b => bool b
  | number d => number d.reduced
  | text s => text s
  | list items => list (plainItems items)
  | absent _ => absent .null

/-- What JSON keeps of the items of a list. -/
def plainItems : List Value → List Value
  | [] => []
  | v :: vs => v.plain :: plainItems vs

end

mutual

/-- JSON keeps the plain value. -/
theorem ofJson_toJson (v : Value) : ofJson v.toJson = v.plain := by
  match v with
  | bool _ | text _ | absent _ => rfl
  | number d => simp [toJson, ofJson, plain, Decimal.ofNumber?_toNumber_reduced]
  | list items => rw [toJson, ofJson, plain, ofJsonItems_toJsonItems items]

theorem ofJsonItems_toJsonItems (items : List Value) :
    ofJsonItems (toJsonItems items) = plainItems items := by
  match items with
  | [] => rfl
  | v :: vs => rw [toJsonItems, ofJsonItems, plainItems, ofJson_toJson v,
      ofJsonItems_toJsonItems vs]

end

theorem plain_eq_of_toJson_eq {v w : Value} (h : v.toJson = w.toJson) : v.plain = w.plain := by
  rw [← ofJson_toJson, h, ofJson_toJson]

@[simp] theorem kind_plain (v : Value) : v.plain.kind = v.kind := by
  cases v <;> rfl

/-! ## Absences -/

mutual

/-- A value with `null` for each absence, at any depth. -/
def withNull : Value → Value
  | bool b => bool b
  | number d => number d
  | text s => text s
  | list items => list (withNullItems items)
  | absent _ => absent .null

/-- The items of a list with `null` for each absence. -/
def withNullItems : List Value → List Value
  | [] => []
  | v :: vs => v.withNull :: withNullItems vs

end

mutual

/-- The plain value has lost the reasons for absences, and no number has changed. -/
theorem plain_beq_withNull (v : Value) : (v.plain == v.withNull) = true := by
  match v with
  | bool _ | text _ | absent _ => exact BEq.refl _
  | number d => exact d.reduced_beq
  | list items => exact plainItems_same_withNull items

theorem plainItems_same_withNull (items : List Value) :
    sameItems (plainItems items) (withNullItems items) = true := by
  match items with
  | [] => rfl
  | v :: vs => exact sameItems_cons.2 ⟨plain_beq_withNull v, plainItems_same_withNull vs⟩

end

mutual

/-- The reasons for absences are not written. -/
theorem toJson_withNull (v : Value) : v.withNull.toJson = v.toJson := by
  match v with
  | bool _ | number _ | text _ | absent _ => rfl
  | list items => rw [withNull, toJson, toJson, toJsonItems_withNullItems items]

theorem toJsonItems_withNullItems (items : List Value) :
    toJsonItems (withNullItems items) = toJsonItems items := by
  match items with
  | [] => rfl
  | v :: vs =>
    rw [withNullItems, toJsonItems, toJsonItems, toJson_withNull v, toJsonItems_withNullItems vs]

end

/-! ## Recordable values -/

mutual

/-- Whether the absences inside of a value are all `null`. -/
def isRecordable : Value → Bool
  | bool _ | number _ | text _ => true
  | list items => areRecordable items
  | absent reason => reason == .null

/-- Whether the absences inside of the items of a list are all `null`. -/
def areRecordable : List Value → Bool
  | [] => true
  | v :: vs => v.isRecordable && areRecordable vs

end

theorem areRecordable_iff {items : List Value} :
    areRecordable items = true ↔ ∀ v ∈ items, v.isRecordable = true := by
  induction items with
  | nil => simp [areRecordable]
  | cons v vs ih => rw [areRecordable, Bool.and_eq_true, ih, List.forall_mem_cons]

mutual

/-- The plain value of a recordable value is equal to it. -/
theorem plain_beq {v : Value} (h : v.isRecordable = true) : (v.plain == v) = true := by
  match v with
  | bool _ | text _ => exact BEq.refl _
  | number d => exact d.reduced_beq
  | absent reason =>
    obtain rfl : reason = .null := eq_of_beq h
    exact BEq.refl _
  | list items => exact plainItems_same h

theorem plainItems_same {items : List Value} (h : areRecordable items = true) :
    sameItems (plainItems items) items = true := by
  match items with
  | [] => rfl
  | v :: vs =>
    rw [areRecordable, Bool.and_eq_true] at h
    exact sameItems_cons.2 ⟨plain_beq h.1, plainItems_same h.2⟩

end

/-! ## Whole values -/

mutual

/-- Whether there is no absence inside of a value. -/
def isWhole : Value → Bool
  | bool _ | number _ | text _ => true
  | list items => areWhole items
  | absent _ => false

/-- Whether there is no absence inside of the items of a list. -/
def areWhole : List Value → Bool
  | [] => true
  | v :: vs => v.isWhole && areWhole vs

end

mutual

/-- A whole value is equal to the plain value of another one if it is equal to this. -/
theorem beq_plain {v : Value} (h : v.isWhole = true) (w : Value) : (v == w.plain) = (v == w) := by
  match v, w with
  | bool _, bool _ | text _, text _ => rfl
  | number _, number d => exact BEq.congr_right (a := _) d.reduced_beq
  | list vs, list ws => exact sameItems_plainItems h ws
  | bool _, number _ | bool _, text _ | bool _, list _ | bool _, absent _ => rfl
  | number _, bool _ | number _, text _ | number _, list _ | number _, absent _ => rfl
  | text _, bool _ | text _, number _ | text _, list _ | text _, absent _ => rfl
  | list _, bool _ | list _, number _ | list _, text _ | list _, absent _ => rfl

theorem sameItems_plainItems {vs : List Value} (h : areWhole vs = true) (ws : List Value) :
    sameItems vs (plainItems ws) = sameItems vs ws := by
  match vs, ws with
  | [], [] | [], _ :: _ | _ :: _, [] => rfl
  | v :: vs, w :: ws =>
    rw [areWhole, Bool.and_eq_true] at h
    have first : v.same w.plain = v.same w := beq_plain h.1 w
    rw [plainItems, sameItems, sameItems, first, sameItems_plainItems h.2 ws]

end

theorem contains_plain {items : List Value} (h : areWhole items = true) (needle : Value) :
    items.contains needle.plain = items.contains needle := by
  induction items with
  | nil => rfl
  | cons item items ih =>
    rw [areWhole, Bool.and_eq_true] at h
    rw [List.contains_cons, List.contains_cons, ih h.2, BEq.comm, beq_plain h.1 needle,
      BEq.comm]

theorem plainItems_contains {v : Value} (h : v.isWhole = true) (items : List Value) :
    (plainItems items).contains v = items.contains v := by
  induction items with
  | nil => rfl
  | cons item items ih =>
    rw [plainItems, List.contains_cons, List.contains_cons, ih, beq_plain h item]

end Value

/-! ## Literals -/

namespace Operator

variable (op : Operator) {value : Value} (literal : Value)

theorem comparableKinds_plain : op.comparableKinds literal.plain = op.comparableKinds literal := by
  cases op <;> cases literal <;> rfl

theorem holds_plain (h : value.isWhole = true) :
    op.holds value literal.plain = op.holds value literal := by
  cases op with
  | equals => exact Value.beq_plain h literal
  | contains =>
    cases value with
    | list items => exact Value.contains_plain h literal
    | _ => cases literal <;> rfl
  | greaterThan =>
    cases literal with
    | number d =>
      cases value with
      | number e => exact Decimal.lt_congr d.reduced_beq (BEq.refl e)
      | _ => rfl
    | _ => cases value <;> rfl
  | lessOrEqual =>
    cases literal with
    | number d =>
      cases value with
      | number e => exact congrArg (!·) (Decimal.lt_congr d.reduced_beq (BEq.refl e))
      | _ => rfl
    | _ => cases value <;> rfl
  | inList =>
    cases literal with
    | list items => exact Value.plainItems_contains h items
    | _ => rfl

/-- A value that is whole, or not there at all, does not tell a literal from its plain value. -/
theorem outcome_plain (h : value.isAbsent = true ∨ value.isWhole = true) :
    op.outcome value literal.plain = op.outcome value literal := by
  have demands : op.demandsFalse literal.plain = op.demandsFalse literal := by
    cases op <;> cases literal <;> rfl
  rw [outcome, outcome, demands, compares, compares, comparableKinds_plain]
  rcases h with absent | whole
  · rw [if_pos absent, if_pos absent]
  · rw [holds_plain op literal whole]

end Operator

/-! ## Environments -/

namespace Environment

variable (env : Environment)

/-- JSON keeps the plain values of an environment. -/
theorem ofJson_toJson : ofJson env.toJson = .ok (env.map Value.plain) := by
  rw [toJson, ofJson, List.map_map, ← Dictionary.ofList_entries (env.map Value.plain)]
  refine congrArg (Except.ok ∘ Dictionary.ofList) (List.map_congr_left fun entry _ => ?_)
  exact Prod.ext rfl (Value.ofJson_toJson entry.2)

theorem lookup_map_plain (name : String) :
    lookup (env.map Value.plain) name = env.lookup name ∨
      lookup (env.map Value.plain) name = (env.lookup name).plain := by
  rw [lookup, lookup, Dictionary.get?_map]
  cases env.get? name with
  | none => exact .inl rfl
  | some v => exact .inr rfl

end Environment

end RuleActivation
