import Mathlib.Data.List.Nodup
import RuleActivation.Proofs.Boundary
import RuleActivation.Proofs.Evaluation.Agreement
import RuleActivation.Proofs.Snapshot.Review
import RuleActivation.Proofs.Synthesis.Cases

/-!
# Verifying a new snapshot

A snapshot that is checked against the registry it was built from has a record for every active
rule and for no other, with the rule's fingerprint, and every case is evaluated again. A case can
only disagree because JSON gives all absences the same form. Without an absence inside of a list
that could be told from `null`, none does.

## Main definitions

* `Rule.recheck`: what becomes of a recorded case of a rule

## Main results

* `Rule.evaluate_map_plain`: evaluation in an environment that JSON has kept
* `Snapshot.verify_build_eq`: what the check of a new snapshot finds
* `Snapshot.verify_build_of_isRecordable`: a sufficient condition for it to find nothing
* `Snapshot.verify_build`: when it finds nothing to report
-/

namespace RuleActivation

/-! ## Environments that JSON has kept -/

/-- Environments whose values are recordable. -/
def Environment.IsRecordable (env : Environment) : Prop :=
  ∀ name v, env.get? name = some v → v.isRecordable = true

namespace Environment

variable {env : Environment}

theorem kind_lookup_map_plain (env : Environment) (name : String) :
    (lookup (env.map Value.plain) name).kind = (env.lookup name).kind := by
  rcases lookup_map_plain env name with same | kept
  · rw [same]
  · rw [kept, Value.kind_plain]

theorem IsRecordable.lookup_map_plain_beq (h : env.IsRecordable) (name : String) :
    (lookup (env.map Value.plain) name == env.lookup name) = true := by
  rw [lookup, lookup, Dictionary.get?_map]
  cases given : env.get? name with
  | none => exact BEq.refl _
  | some v => exact Value.plain_beq (h name v given)

end Environment

/-- JSON keeps what evaluation sees of an environment with recordable values. -/
theorem Rule.evaluate_map_plain (r : Rule) {env : Environment} (h : env.IsRecordable) :
    r.evaluate (env.map Value.plain) = r.evaluate env := by
  refine Node.Related.evaluate_eq ((Node.related_refl r.tree).mono ?_)
  rintro c _ rfl
  exact ⟨rfl, rfl, rfl, Environment.kind_lookup_map_plain env _,
    Operator.outcome_congr _ (h.lookup_map_plain_beq _) (BEq.refl _)⟩

theorem Rule.isRecordable_of_mem_cases {r : Rule} {c : BoundaryCase}
    (h : c ∈ r.synthesize.cases)
    (literals : ∀ leaf ∈ r.tree.leaves, leaf.2.literal.isRecordable = true) :
    c.environment.IsRecordable := fun _ _ given => by
  obtain ⟨leaf, mem, -, boundary⟩ := exists_leaf_of_mem_cases h given
  exact Condition.isRecordable_of_boundary (literals leaf mem) boundary

/-! ## Checking records -/

/-- What becomes of a recorded case when it is checked. -/
def Rule.recheck (r : Rule) (c : BoundaryCase) : Option Disagreement :=
  if r.evaluate (c.environment.map Value.plain) = c.expected then none
  else some ⟨r.id, c.label, c.expected, r.evaluate (c.environment.map Value.plain)⟩

theorem Rule.recheck_eq_none_iff {r : Rule} {c : BoundaryCase} :
    r.recheck c = none ↔ r.evaluate (c.environment.map Value.plain) = c.expected := by
  rw [recheck]
  split <;> simp_all

theorem Rule.recheck_of_isRecordable {r : Rule} {c : BoundaryCase}
    (literals : ∀ leaf ∈ r.tree.leaves, leaf.2.literal.isRecordable = true)
    (mem : c ∈ r.synthesize.cases) : r.recheck c = none := by
  rw [recheck_eq_none_iff, expected_eq_of_mem_cases mem]
  exact r.evaluate_map_plain (isRecordable_of_mem_cases mem literals)

theorem RecordedCase.check_eq (r : Rule) (c : BoundaryCase) :
    RecordedCase.check r r.id ⟨c.label, c.environment.toJson, c.expected⟩ = .ok (r.recheck c) := by
  rw [check, Environment.ofJson_toJson]
  rfl

/-- The record of an active rule is neither orphaned nor stale. -/
theorem RuleRecord.review_eq {registry : Registry} {r : Rule} (h : r ∈ registry.activeRules) :
    (RuleRecord.ofSynthesis r r.synthesize).review registry =
      .ok (.checked (r.synthesize.cases.map r.recheck)) := by
  have checks : (RuleRecord.ofSynthesis r r.synthesize).cases.mapM (RecordedCase.check r r.id) =
      .ok (r.synthesize.cases.map r.recheck) := by
    rw [ofSynthesis, List.mapM_map]
    exact mapM_eq_ok fun c _ => RecordedCase.check_eq r c
  rw [review_of_isOf h ⟨rfl, rfl⟩]
  exact congrArg (Except.map Review.checked) checks

/-! ## Checking snapshots -/

namespace Snapshot

theorem idsWith_eq_nil {review : Review} {reviews : List (Int64 × Review)}
    (h : ∀ entry ∈ reviews, entry.2 ≠ review) : idsWith review reviews = [] := by
  rw [idsWith, List.map_eq_nil_iff, List.filter_eq_nil_iff]
  exact fun entry mem same => h entry mem (eq_of_beq same)

/-- What the check of a new snapshot finds: the disagreements of the cases, and nothing else. -/
theorem verify_build_eq (registry : Registry) :
    (build registry).verify registry = .ok {
      casesChecked := (build registry).caseCount
      mismatches := registry.activeRules.flatMap fun r => r.synthesize.cases.filterMap r.recheck
      stale := []
      missing := []
      orphaned := [] } := by
  let review (r : Rule) : Int64 × Review := (r.id, .checked (r.synthesize.cases.map r.recheck))
  have reviews : ((build registry).rules.mapM fun stored => do
      return (stored.id, ← stored.review registry)) = .ok (registry.activeRules.map review) := by
    rw [build, List.mapM_map]
    refine mapM_eq_ok fun r mem => ?_
    rw [Function.comp_apply, RuleRecord.review_eq mem]
    rfl
  have checks : (registry.activeRules.map review).flatMap (·.2.checks) =
      registry.activeRules.flatMap fun r => r.synthesize.cases.map r.recheck :=
    List.flatMap_map ..
  have stale : idsWith .stale (registry.activeRules.map review) = [] :=
    idsWith_eq_nil fun entry mem => by
      obtain ⟨r, -, rfl⟩ := List.mem_map.1 mem
      simp [review]
  have orphaned : idsWith .orphaned (registry.activeRules.map review) = [] :=
    idsWith_eq_nil fun entry mem => by
      obtain ⟨r, -, rfl⟩ := List.mem_map.1 mem
      simp [review]
  have missing : (registry.activeRules.map Rule.id).filter
      (fun id => !(build registry).rules.any (·.id == id)) = [] := by
    rw [List.filter_eq_nil_iff]
    intro id mem
    obtain ⟨r, hr, rfl⟩ := List.mem_map.1 mem
    simpa [build, RuleRecord.ofSynthesis] using ⟨r, hr, rfl⟩
  rw [verify, reviews]
  simp only [bind, Except.bind, pure, Except.pure, checks, stale, orphaned, missing]
  simp [caseCount, build, RuleRecord.ofSynthesis, List.length_flatMap, List.filterMap_flatMap,
    List.flatMap_map]

/-- The check of a new snapshot finds nothing if no literal holds an absence other than `null`. -/
theorem verify_build_of_isRecordable {registry : Registry} (literals : ∀ r ∈ registry.activeRules,
    ∀ leaf ∈ r.tree.leaves, leaf.2.literal.isRecordable = true) :
    (build registry).verify registry =
      .ok ⟨(build registry).caseCount, [], [], [], []⟩ := by
  have kept : (registry.activeRules.flatMap fun r =>
      r.synthesize.cases.filterMap r.recheck) = [] := by
    rw [List.flatMap_eq_nil_iff]
    intro r hr
    rw [List.filterMap_eq_nil_iff]
    exact fun c hc => Rule.recheck_of_isRecordable (literals r hr) hc
  rw [verify_build_eq, kept]

/-- How the check of a new snapshot ends: all cases are checked, and there is nothing to report if
and only if no rule sees what JSON loses of their environments. No rule does whose literals hold no
other absence than `null`. -/
theorem verify_build (registry : Registry) :
    ∃ v, (build registry).verify registry = .ok v ∧
      v.casesChecked = (build registry).caseCount ∧
      v.stale = [] ∧ v.missing = [] ∧ v.orphaned = [] ∧
      (v.isClean = true ↔ ∀ r ∈ registry.activeRules, ∀ c ∈ r.synthesize.cases,
        r.evaluate (c.environment.map Value.plain) = c.expected) ∧
      ((∀ r ∈ registry.activeRules, ∀ leaf ∈ r.tree.leaves,
        leaf.2.literal.isRecordable = true) → v.isClean = true) := by
  have clean : (registry.activeRules.flatMap fun r =>
      r.synthesize.cases.filterMap r.recheck) = [] ↔
        ∀ r ∈ registry.activeRules, ∀ c ∈ r.synthesize.cases,
          r.evaluate (c.environment.map Value.plain) = c.expected := by
    simp only [List.flatMap_eq_nil_iff, List.filterMap_eq_nil_iff, Rule.recheck_eq_none_iff]
  refine ⟨_, verify_build_eq registry, rfl, rfl, rfl, rfl, ?_, fun literals => ?_⟩
  · simpa [Verification.isClean] using clean
  · have found := (verify_build_eq registry).symm.trans (verify_build_of_isRecordable literals)
    rw [Except.ok.inj found]
    rfl

/-- A rule that asks for an object in a list in a list is satisfied by its baseline, but not by what
JSON keeps of it. -/
theorem exists_isClean_verify_build_eq_false :
    ∃ registry v, Registry.ofJson (.object [("rules", .array [.object [("id", .ofNat 1),
        ("name", .string "a"), ("title", .string "t"), ("ast", .object [
          ("type", .string "condition"), ("variable", .string "x"),
          ("operator", .string "equals"), ("value", .array [.array [.object []]])])]])]) =
          .ok registry ∧
      (build registry).verify registry = .ok v ∧ v.isClean = false :=
  ⟨_, _, rfl, verify_build_eq _, by decide⟩

end Snapshot

end RuleActivation
