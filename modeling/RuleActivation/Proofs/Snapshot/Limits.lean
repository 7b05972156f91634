import RuleActivation.Proofs.Snapshot.RoundTrip
import RuleActivation.Proofs.Synthesis.Cases
import RuleActivation.Proofs.Value.Depth

/-!
# Which snapshots are read back

The text of a snapshot is read back as it is unless a literal nests too many lists, an environment
begins with the key for numbers, or a tree has so many children that their indices have more than
64 bits. A snapshot nests its environments in five containers, and a rule document its literals in
four or more, so that there are literals that can be loaded but not recorded.

## Main definitions

* `Rule.IsRestorable`: the rules whose cases are read back

## Main results

* `Snapshot.reread_eq_self_iff`: what has to be read back
* `Snapshot.reread_build_iff`: the snapshots of registries that are read back
* `Snapshot.decode_encode_build_iff`: the same, of their texts
-/

namespace RuleActivation

/-! ## Records -/

theorem mapM_eq_some_self_iff {α : Type} {f : α → Option α} {xs : List α} :
    xs.mapM f = some xs ↔ ∀ x ∈ xs, f x = some x := by
  induction xs with
  | nil => simp
  | cons x xs ih =>
    rw [Reader.mapM_cons_eq, List.forall_mem_cons, ← ih]
    cases f x with
    | none => simp
    | some y => cases xs.mapM f <;> simp

namespace RecordedCase

theorem reread_eq_self_iff {c : RecordedCase} : c.reread = some c ↔
    c.label.isAddressable = true ∧
      (c.environment.reread environmentDepth).map Json.canonical = some c.environment := by
  rw [reread]
  cases c.label.isAddressable with
  | false => simp
  | true => cases c.environment.reread environmentDepth <;> cases c <;> simp

end RecordedCase

theorem UnbuiltCase.reread_eq_self_iff {u : UnbuiltCase} :
    u.reread = some u ↔ u.label.isAddressable = true := by
  rw [reread]
  cases u.label.isAddressable <;> simp

namespace RuleRecord

theorem reread_eq_self_iff {r : RuleRecord} : r.reread = some r ↔
    (∀ c ∈ r.cases, c.reread = some c) ∧ ∀ u ∈ r.unbuilt, u.reread = some u := by
  rw [← mapM_eq_some_self_iff, ← mapM_eq_some_self_iff, reread]
  cases r.cases.mapM RecordedCase.reread with
  | none => simp
  | some cases =>
    cases r.unbuilt.mapM UnbuiltCase.reread with
    | none => simp
    | some unbuilt =>
      cases r
      simp

end RuleRecord

/-- What has to be read back of a snapshot. -/
theorem Snapshot.reread_eq_self_iff {s : Snapshot} :
    s.reread = some s ↔ ∀ r ∈ s.rules, r.reread = some r := by
  rw [← mapM_eq_some_self_iff, reread]
  cases s.rules.mapM RuleRecord.reread with
  | none => simp
  | some rules =>
    cases s
    simp

/-! ## Rules -/

namespace Rule

/-- Rules whose cases are read back: the indices of their positions have 64 bits, their literals
are not too deep, and no case begins with the key for numbers. -/
structure IsRestorable (r : Rule) : Prop where
  addressable : ∀ leaf ∈ r.tree.leaves, leaf.1.isAddressable = true
  shallow : ∀ leaf ∈ r.tree.leaves, leaf.2.literal.depth < environmentDepth
  unreserved : ∀ c ∈ r.synthesize.cases, c.environment.keys.head? ≠ some Json.numberKey

variable {r : Rule}

theorem reread_recordedCase_iff {c : BoundaryCase} :
    (RecordedCase.mk c.label c.environment.toJson c.expected).reread =
        some ⟨c.label, c.environment.toJson, c.expected⟩ ↔
      c.label.isAddressable = true ∧
        (∀ name v, c.environment.get? name = some v → v.depth < environmentDepth) ∧
        c.environment.keys.head? ≠ some Json.numberKey := by
  have depths := c.environment.reread_toJson_iff (environmentDepth - 1)
  have room (n : Nat) : n ≤ environmentDepth - 1 ↔ n < environmentDepth :=
    Nat.le_sub_one_iff_lt (by decide)
  simp only [room] at depths
  exact RecordedCase.reread_eq_self_iff.trans (and_congr_right fun _ => depths)

theorem IsRestorable.of_reread {env : Environment} (satisfied : r.baseline = .ok env)
    (h : ∀ c ∈ r.synthesize.cases, c.label.isAddressable = true ∧
      (∀ name v, c.environment.get? name = some v → v.depth < environmentDepth) ∧
      c.environment.keys.head? ≠ some Json.numberKey) : r.IsRestorable where
  addressable leaf mem :=
    (h _ (mem_cases_iff.2 ⟨env, satisfied, .inr (.inr ⟨leaf, mem, rfl⟩)⟩)).1
  shallow leaf mem := by
    by_contra deep
    have nested : 1 < leaf.2.literal.depth := Nat.lt_of_lt_of_le (by decide) (Nat.le_of_not_lt deep)
    obtain ⟨v, negative, depth⟩ := Condition.exists_negative_of_depth nested
    have recorded := mem_cases_iff.2 ⟨env, satisfied, .inr (.inl ⟨leaf, mem,
      negativeCase_eq_ok_iff.2 ⟨v, negative, rfl⟩⟩)⟩
    have small := (h _ recorded).2.1 leaf.2.variableName v (by simp [caseOf])
    omega
  unreserved c mem := (h c mem).2.2

theorem IsRestorable.reread_of_mem_cases (h : r.IsRestorable) {c : BoundaryCase}
    (mem : c ∈ r.synthesize.cases) : c.label.isAddressable = true ∧
      (∀ name v, c.environment.get? name = some v → v.depth < environmentDepth) ∧
      c.environment.keys.head? ≠ some Json.numberKey := by
  refine ⟨?_, fun name v given => ?_, h.unreserved c mem⟩
  · obtain label | ⟨leaf, hleaf, label | label⟩ := label_of_mem_cases mem <;> rw [label]
    · rfl
    · exact h.addressable leaf hleaf
    · exact h.addressable leaf hleaf
  · obtain ⟨leaf, hleaf, -, boundary⟩ := exists_leaf_of_mem_cases mem given
    refine Nat.lt_of_le_of_lt (Condition.depth_le_of_boundary boundary) ?_
    exact Nat.max_lt.2 ⟨by decide, h.shallow leaf hleaf⟩

/-- The record of a rule is read back if and only if there is nothing to record or the rule is
restorable. -/
theorem reread_ofSynthesis_iff :
    (RuleRecord.ofSynthesis r r.synthesize).reread =
        some (RuleRecord.ofSynthesis r r.synthesize) ↔
      (r.synthesize.excluded = none → r.IsRestorable) := by
  rw [RuleRecord.reread_eq_self_iff, RuleRecord.ofSynthesis]
  simp only [List.forall_mem_map, reread_recordedCase_iff, UnbuiltCase.reread_eq_self_iff]
  constructor
  · rintro ⟨cases, -⟩ included
    obtain ⟨env, satisfied⟩ := excluded_eq_none_iff.1 included
    exact .of_reread satisfied cases
  · intro restorable
    refine ⟨fun c mem => ?_, fun u mem => ?_⟩
    · obtain ⟨env, satisfied, -⟩ := mem_cases_iff.1 mem
      exact (restorable (excluded_eq_none_iff.2 ⟨env, satisfied⟩)).reread_of_mem_cases mem
    · obtain ⟨included, leaf, hleaf, label⟩ := label_of_mem_unbuilt mem
      rw [label]
      exact (restorable included).addressable leaf hleaf

end Rule

namespace Snapshot

/-- The snapshot of a registry is read back if and only if all its rules are restorable. -/
theorem reread_build_iff (registry : Registry) :
    (build registry).reread = some (build registry) ↔
      ∀ r ∈ registry.activeRules, r.synthesize.excluded = none → r.IsRestorable := by
  rw [reread_eq_self_iff, build]
  simp only [List.forall_mem_map, Rule.reread_ofSynthesis_iff]

/-- The text of a registry's snapshot is read back as this snapshot if and only if all rules that
have cases are restorable. -/
theorem decode_encode_build_iff (registry : Registry) :
    decode (build registry).encode = .ok (build registry) ↔
      ∀ r ∈ registry.activeRules, r.synthesize.excluded = none → r.IsRestorable := by
  rw [← reread_build_iff, ← toOption_decode_encode]
  cases decode (build registry).encode <;> simp [Except.toOption]

/-- Lists inside each other. -/
def nestedLists : (depth : Nat) → Json
  | 0 => .array []
  | depth + 1 => .array [nestedLists depth]

set_option maxRecDepth 2000 in
/-- A document whose literal nests as many lists as an environment may nest containers is read and
loaded, but the snapshot of its rules is not read back. -/
theorem exists_decode_encode_build_ne :
    ∃ document registry, Json.parse? (Json.compact document) = some document ∧
      Registry.ofJson document = .ok registry ∧
      decode (build registry).encode ≠ .ok (build registry) := by
  let document : Json := .object [("rules", .array [.object [
    ("ast", .object [("operator", .string "equals"), ("type", .string "condition"),
      ("value", nestedLists 121), ("variable", .string "x")]),
    ("id", .ofNat 1), ("name", .string "a"), ("title", .string "t")]])]
  have parsed : Json.parse? document.compact = some document := by
    rw [Json.parse?, Json.read?_compact]
    rfl
  refine ⟨document, _, parsed, rfl, fun same => ?_⟩
  have read := congrArg Except.toOption same
  rw [toOption_decode_encode] at read
  have restorable := (reread_build_iff _).1 read _ (List.mem_singleton.2 rfl) rfl
  exact absurd (restorable.shallow _ (List.mem_singleton.2 rfl)) (by decide)

end Snapshot

end RuleActivation
