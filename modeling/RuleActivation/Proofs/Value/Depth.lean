import RuleActivation.Environment
import RuleActivation.Proofs.Boundary
import RuleActivation.Proofs.Dictionary
import RuleActivation.Proofs.Json.Rereading

/-!
# Nested lists

JSON is read back only up to a certain depth, so that the depth of a value decides whether it is.

## Main definitions

* `Value.depth`: how deep lists are nested in a value

## Main results

* `Value.reread_toJson`: reading a value back
* `Environment.reread_toJson_iff`: which environments are read back
* `Condition.depth_le_of_boundary`: boundary values are hardly deeper than the literal
-/

namespace RuleActivation

namespace Value

mutual

/-- How deep lists are nested in a value. -/
def depth : Value → Nat
  | bool _ | number _ | text _ | absent _ => 0
  | list items => depthItems items + 1

/-- How deep lists are nested in the items of a list. -/
def depthItems : List Value → Nat
  | [] => 0
  | v :: vs => max v.depth (depthItems vs)

end

theorem depth_of_isScalar {v : Value} (h : v.isScalar = true) : v.depth = 0 := by
  cases v <;> first | rfl | cases h

theorem depthItems_append (vs ws : List Value) :
    depthItems (vs ++ ws) = max (depthItems vs) (depthItems ws) := by
  induction vs with
  | nil => simp [depthItems]
  | cons v vs ih => rw [List.cons_append, depthItems, depthItems, ih, Nat.max_assoc]

theorem depthItems_of_isScalar {items : List Value} (h : ∀ v ∈ items, v.isScalar = true) :
    depthItems items = 0 := by
  induction items with
  | nil => rfl
  | cons v vs ih =>
    obtain ⟨first, others⟩ := List.forall_mem_cons.1 h
    rw [depthItems, depth_of_isScalar first, ih others]
    rfl

/-! ## Reading values back -/

mutual

/-- A value is read back if it is not too deep. -/
theorem reread_toJson (v : Value) (d : Nat) :
    v.toJson.reread d = if v.depth ≤ d then some v.toJson else none := by
  match v, d with
  | bool _, _ | number _, _ | text _, _ | absent _, _ => simp [toJson, Json.reread, depth]
  | list items, 0 => simp [toJson, Json.reread, depth]
  | list items, d + 1 =>
    rw [toJson, Json.reread, rereadItems_toJsonItems items d, depth]
    by_cases h : depthItems items ≤ d <;> simp [h]

theorem rereadItems_toJsonItems (items : List Value) (d : Nat) :
    Json.rereadItems d (toJsonItems items) =
      if depthItems items ≤ d then some (toJsonItems items) else none := by
  match items with
  | [] => simp [toJsonItems, Json.rereadItems, depthItems]
  | v :: vs =>
    rw [toJsonItems, Json.rereadItems, reread_toJson v d, rereadItems_toJsonItems vs d, depthItems]
    by_cases first : v.depth ≤ d
    · by_cases others : depthItems vs ≤ d <;> simp [first, others]
    · simp [first]

end

mutual

theorem canonical_toJson (v : Value) : v.toJson.canonical = v.toJson := by
  match v with
  | bool _ | number _ | text _ | absent _ => rfl
  | list items => rw [toJson, Json.canonical, canonicalItems_toJsonItems items]

theorem canonicalItems_toJsonItems (items : List Value) :
    Json.canonicalItems (toJsonItems items) = toJsonItems items := by
  match items with
  | [] => rfl
  | v :: vs =>
    rw [toJsonItems, Json.canonicalItems, canonical_toJson v, canonicalItems_toJsonItems vs]

end

end Value

/-! ## Reading environments back -/

namespace Environment

theorem canonicalMembers_toJson (entries : List (String × Value)) :
    Json.canonicalMembers (entries.map fun (k, v) => (k, v.toJson)) =
      entries.map fun (k, v) => (k, v.toJson) := by
  induction entries with
  | nil => rfl
  | cons entry entries ih => rw [List.map_cons, Json.canonicalMembers, Value.canonical_toJson, ih]

theorem canonical_toJson (env : Environment) : env.toJson.canonical = env.toJson := by
  rw [toJson, Json.canonical, canonicalMembers_toJson]
  exact congrArg Json.object (congrArg _ (Dictionary.ofList_entries (env.map Value.toJson)))

theorem rereadMembers_toJson (entries : List (String × Value)) (d : Nat) :
    Json.rereadMembers d (entries.map fun (k, v) => (k, v.toJson)) =
      if entries.all (·.2.depth ≤ d) then some (entries.map fun (k, v) => (k, v.toJson))
      else none := by
  induction entries with
  | nil => rfl
  | cons entry entries ih =>
    rw [List.map_cons, Json.rereadMembers, Value.reread_toJson, ih, List.all_cons]
    by_cases first : entry.2.depth ≤ d
    · cases others : entries.all (·.2.depth ≤ d) <;> simp [first]
    · simp [first]

theorem all_depth_le_iff {env : Environment} {d : Nat} :
    env.entries.all (·.2.depth ≤ d) = true ↔
      ∀ name v, env.get? name = some v → v.depth ≤ d := by
  simp only [List.all_eq_true, decide_eq_true_eq, ← Dictionary.mem_entries_iff, Prod.forall]

/-- An environment is read back if its values are not too deep and its first variable does not make
a number of it. -/
theorem reread_toJson_iff (env : Environment) (d : Nat) :
    (env.toJson.reread (d + 1)).map Json.canonical = some env.toJson ↔
      (∀ name v, env.get? name = some v → v.depth ≤ d) ∧
        env.keys.head? ≠ some Json.numberKey := by
  rw [← all_depth_le_iff, toJson, Json.reread, rereadMembers_toJson]
  cases shallow : env.entries.all (·.2.depth ≤ d) with
  | false => simp
  | true =>
    have kept := env.canonical_toJson
    simp only [if_true, Option.bind_some, true_and, Dictionary.keys]
    rw [toJson] at kept
    cases entries : env.entries with
    | nil =>
      rw [entries] at kept
      simpa [Json.Build.objectOf?] using kept
    | cons entry entries =>
      rw [entries] at kept
      simp only [List.map_cons, List.head?_cons]
      by_cases reserved : entry.1 = Json.numberKey
      · rw [reserved]
        refine iff_of_false (fun same => ?_) (not_not.2 rfl)
        obtain ⟨v, hv, hc⟩ := Option.map_eq_some_iff.1 same
        obtain ⟨n, rfl⟩ := Json.Build.exists_number_of_objectOf? hv
        cases hc
      · rw [Json.Build.objectOf?_of_ne reserved]
        simpa [reserved] using kept

end Environment

/-! ## Boundary values -/

/-- A literal has no list in a list, unless it is one to be equal to. -/
theorem Operator.depth_le_one_of_usable {op : Operator} {literal : Value} (other : op ≠ equals)
    (h : op.fault? literal = none) : literal.depth ≤ 1 := by
  cases op with
  | equals => exact absurd rfl other
  | contains =>
    rw [Value.depth_of_isScalar (isScalar_of_contains_usable h)]
    exact Nat.zero_le 1
  | greaterThan | lessOrEqual =>
    obtain ⟨d, rfl⟩ := exists_number_of_usable (by simp) h
    exact Nat.zero_le 1
  | inList =>
    cases literal with
    | list items =>
      rw [Value.depth, Value.depthItems_of_isScalar fun v mem => isScalar_of_mem_of_usable h mem]
    | _ => exact Nat.zero_le 1

namespace Condition

variable {c : Condition} {v : Value}

/-- Boundary values are as deep as the literal at most, unless this has no lists in it. -/
theorem depth_le_of_boundary (h : c.satisfying = .ok v ∨ c.negative = .ok v) :
    v.depth ≤ max 1 c.literal.depth := by
  rcases h with satisfying | negative
  · obtain ⟨rfl, -⟩ | scalar | ⟨item, scalar, rfl⟩ := Operator.satisfying_shape c.usable satisfying
    · exact Nat.le_max_right _ _
    · rw [Value.depth_of_isScalar scalar]
      exact Nat.zero_le _
    · rw [Value.depth, Value.depthItems, Value.depth_of_isScalar scalar]
      exact Nat.le_max_left _ _
  · obtain scalar | rfl | ⟨items, same, rfl⟩ := Operator.negative_shape negative
    · rw [Value.depth_of_isScalar scalar]
      exact Nat.zero_le _
    · exact Nat.le_max_left _ _
    · rw [same, Value.depth, Value.depth, Value.depthItems_append]
      simp [Value.depthItems, Value.depth]

/-- A literal with lists in it has a negative value that is as deep. -/
theorem exists_negative_of_depth (h : 1 < c.literal.depth) :
    ∃ v, c.negative = .ok v ∧ c.literal.depth ≤ v.depth := by
  have equals : c.operator = .equals := by
    by_contra other
    have := Operator.depth_le_one_of_usable other c.usable
    omega
  cases literal : c.literal with
  | list items =>
    refine ⟨.list (items ++ [.bool false]), ?_, ?_⟩
    · rw [negative, equals, literal]
      rfl
    · rw [Value.depth, Value.depth, Value.depthItems_append]
      omega
  | _ =>
    rw [literal, Value.depth] at h
    omega

end Condition

end RuleActivation
