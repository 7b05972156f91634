import Mathlib.Data.List.Forall2
import Mathlib.Data.List.Nodup
import RuleActivation.Proofs.Registry.Lookup
import RuleActivation.Snapshot.Verify

/-!
# What the check of a snapshot finds

The records of a snapshot may be those of any registry. The number of a record leads to at most one
active rule. Without this rule the record is orphaned, and it is stale if the rule has another
fingerprint now. All others are current, and only their cases are evaluated again. So the check can
fail in one way only: a case of a current record has an environment that is no object. Of several
such cases it names the first one.

A snapshot is up to date if nothing of this has happened. What this means does not depend on the
order of the records, and it does not matter how many of them are about the same rule.

## Main definitions

* `Rule.Meets`: the rule does what a recorded case expects
* `RuleRecord.IsOrphaned`, `RuleRecord.IsStale`, `RuleRecord.IsCurrent`: what becomes of a record
* `Snapshot.FirstUnreadable`: the first case that cannot be checked
* `Verification.Describes`: what a verification reports
* `Snapshot.IsUpToDate`: the snapshot agrees with the registry

## Main results

* `RuleRecord.reviewed_of_review`, `RuleRecord.review_eq_error_iff`: one record
* `Snapshot.verify_eq_error_iff`, `Snapshot.describes_of_verify`: all records
* `Snapshot.verify_finds`: how the check ends, and when there is nothing to report
-/

namespace RuleActivation

/-! ## Cases -/

namespace RecordedCase

/-- The recorded environment is an object. -/
def IsReadable (c : RecordedCase) : Prop := ∃ members, c.environment = .object members

/-- What is reported of a case whose environment is no object. -/
def fault (id : Int64) (c : RecordedCase) : SnapshotError :=
  .environment id c.label (.notAnObject c.environment.typeName)

/-- What is reported of a case that evaluates to the other truth value. -/
def mismatch (id : Int64) (c : RecordedCase) : Disagreement := ⟨id, c.label, c.expected, !c.expected⟩

end RecordedCase

/-- The rule has the expected truth value in the recorded environment. -/
def Rule.Meets (r : Rule) (c : RecordedCase) : Prop :=
  ∃ env, Environment.ofJson c.environment = .ok env ∧ r.evaluate env = c.expected

namespace RecordedCase

variable {r : Rule} {id : Int64} {c : RecordedCase} {e : SnapshotError}

theorem meets_iff :
    r.Meets c ↔ (Environment.ofJson c.environment).toOption.map r.evaluate = some c.expected := by
  rw [Rule.Meets]
  cases Environment.ofJson c.environment <;> simp [Except.toOption]

instance : Decidable (r.Meets c) := decidable_of_iff _ meets_iff.symm

theorem isReadable_iff : c.IsReadable ↔ ∃ env, Environment.ofJson c.environment = .ok env := by
  rw [IsReadable]
  cases c.environment <;> simp [Environment.ofJson]

theorem isReadable_of_meets (h : r.Meets c) : c.IsReadable := by
  obtain ⟨env, read, -⟩ := h
  exact isReadable_iff.2 ⟨env, read⟩

/-- A case that can be read is compared with evaluation. -/
theorem check_of_isReadable (h : c.IsReadable) :
    check r id c = .ok (if r.Meets c then none else some (c.mismatch id)) := by
  obtain ⟨env, read⟩ := isReadable_iff.1 h
  have met : r.Meets c ↔ r.evaluate env = c.expected := by
    simp [Rule.Meets, read]
  simp only [check, read, met]
  split
  · rfl
  · rename_i other
    rw [mismatch, Bool.eq_not.2 other]

/-- A case that cannot be read ends the check. -/
theorem check_of_not_isReadable (h : ¬c.IsReadable) : check r id c = .error (c.fault id) := by
  rw [check, fault]
  cases environment : c.environment with
  | object members => exact absurd ⟨members, environment⟩ h
  | _ => rfl

theorem check_eq_error_iff : check r id c = .error e ↔ ¬c.IsReadable ∧ c.fault id = e := by
  by_cases readable : c.IsReadable
  · simp [check_of_isReadable readable, readable]
  · simp [check_of_not_isReadable readable, readable]

theorem exists_check_iff : (∃ found, check r id c = .ok found) ↔ c.IsReadable := by
  by_cases readable : c.IsReadable
  · simp [check_of_isReadable readable, readable]
  · simp [check_of_not_isReadable readable, readable]

end RecordedCase

/-! ## Records -/

theorem Registry.findActive?_eq_some_iff {registry : Registry} {id : Int64} {r : Rule} :
    registry.findActive? id = some r ↔ r ∈ registry.activeRules ∧ r.id = id := by
  rw [findActive?, Option.filter_eq_some_iff, find?_eq_some_iff, activeRules, List.mem_filter]
  exact and_right_comm

namespace RuleRecord

/-- The rule has the number and the fingerprint of the record. -/
def IsOf (stored : RuleRecord) (r : Rule) : Prop :=
  r.id = stored.id ∧ r.tree.fingerprint = stored.fingerprint

instance (stored : RuleRecord) (r : Rule) : Decidable (stored.IsOf r) :=
  inferInstanceAs (Decidable (_ ∧ _))

section

variable (registry : Registry) (stored : RuleRecord)

/-- No active rule has the number of the record. -/
def IsOrphaned : Prop := ∀ r ∈ registry.activeRules, r.id ≠ stored.id

/-- The active rule with the number of the record has another fingerprint. -/
def IsStale : Prop :=
  ∃ r ∈ registry.activeRules, r.id = stored.id ∧ r.tree.fingerprint ≠ stored.fingerprint

/-- The active rule with the number of the record has the same fingerprint. -/
def IsCurrent : Prop := ∃ r ∈ registry.activeRules, stored.IsOf r

instance : Decidable (stored.IsOrphaned registry) :=
  inferInstanceAs (Decidable (∀ r ∈ registry.activeRules, r.id ≠ stored.id))

instance : Decidable (stored.IsStale registry) :=
  inferInstanceAs (Decidable (∃ r ∈ registry.activeRules, _ ∧ _))

instance : Decidable (stored.IsCurrent registry) :=
  inferInstanceAs (Decidable (∃ r ∈ registry.activeRules, stored.IsOf r))

/-- The first case of a record whose environment is no object. -/
def FirstUnreadable (c : RecordedCase) : Prop :=
  ∃ before after, stored.cases = before ++ c :: after ∧
    (∀ earlier ∈ before, earlier.IsReadable) ∧ ¬c.IsReadable

/-- The cases of a record that a rule does not meet, as they are reported. -/
def unmetBy (r : Rule) : List Disagreement :=
  (stored.cases.filter fun c => ¬r.Meets c).map (·.mismatch stored.id)

/-- What is reported of the cases of a record, which are checked if the record is current. -/
def mismatches : List Disagreement :=
  (registry.activeRules.filter fun r => stored.IsOf r).flatMap stored.unmetBy

end

variable {registry : Registry} {stored : RuleRecord} {r : Rule} {review : Review}
  {e : SnapshotError}

/-! ### The three states of a record -/

theorem isOrphaned_or_isStale_or_isCurrent (registry : Registry) (stored : RuleRecord) :
    stored.IsOrphaned registry ∨ stored.IsStale registry ∨ stored.IsCurrent registry := by
  by_cases orphaned : stored.IsOrphaned registry
  · exact .inl orphaned
  · unfold IsOrphaned at orphaned
    push Not at orphaned
    obtain ⟨r, mem, sameId⟩ := orphaned
    right
    by_cases same : r.tree.fingerprint = stored.fingerprint
    · exact .inr ⟨r, mem, sameId, same⟩
    · exact .inl ⟨r, mem, sameId, same⟩

theorem IsOrphaned.not_isStale (h : stored.IsOrphaned registry) : ¬stored.IsStale registry := by
  rintro ⟨r, mem, sameId, -⟩
  exact h r mem sameId

theorem IsOrphaned.not_isCurrent (h : stored.IsOrphaned registry) :
    ¬stored.IsCurrent registry := by
  rintro ⟨r, mem, sameId, -⟩
  exact h r mem sameId

/-- The number of a record leads to at most one rule. -/
theorem eq_of_id_eq {r' : Rule} (mem : r ∈ registry.activeRules) (mem' : r' ∈ registry.activeRules)
    (same : r.id = r'.id) : r = r' := by
  have found := Registry.findActive?_eq_some_iff.2 ⟨mem, same⟩
  have found' := Registry.findActive?_eq_some_iff.2 ⟨mem', rfl⟩
  exact Option.some.inj (found.symm.trans found')

theorem IsStale.not_isCurrent (h : stored.IsStale registry) : ¬stored.IsCurrent registry := by
  obtain ⟨r, mem, sameId, other⟩ := h
  rintro ⟨r', mem', sameId', same⟩
  obtain rfl := eq_of_id_eq mem mem' (sameId.trans sameId'.symm)
  exact other same

theorem filter_isOf_eq (mem : r ∈ registry.activeRules) (same : stored.IsOf r) :
    registry.activeRules.filter (fun r => stored.IsOf r) = [r] := by
  have distinct : registry.activeRules.Nodup :=
    (List.Nodup.of_map Rule.id registry.distinct_ids).filter _
  rw [← List.perm_singleton, List.perm_ext_iff_of_nodup (distinct.filter _) (List.nodup_singleton r)]
  intro other
  rw [List.mem_filter, List.mem_singleton, decide_eq_true_eq]
  constructor
  · rintro ⟨otherMem, otherSame⟩
    exact eq_of_id_eq otherMem mem (otherSame.1.trans same.1.symm)
  · rintro rfl
    exact ⟨mem, same⟩

theorem mismatches_eq (mem : r ∈ registry.activeRules) (same : stored.IsOf r) :
    stored.mismatches registry = stored.unmetBy r := by
  rw [mismatches, filter_isOf_eq mem same, List.flatMap_singleton]

theorem mismatches_of_not_isCurrent (h : ¬stored.IsCurrent registry) :
    stored.mismatches registry = [] := by
  have none : registry.activeRules.filter (fun r => stored.IsOf r) = [] := by
    rw [List.filter_eq_nil_iff]
    intro r mem same
    exact h ⟨r, mem, of_decide_eq_true same⟩
  rw [mismatches, none, List.flatMap_nil]

/-! ### The review of a record -/

theorem review_of_isOrphaned (h : stored.IsOrphaned registry) :
    stored.review registry = .ok .orphaned := by
  have none : registry.findActive? stored.id = none := by
    rw [Option.eq_none_iff_forall_ne_some]
    intro r found
    obtain ⟨mem, sameId⟩ := Registry.findActive?_eq_some_iff.1 found
    exact h r mem sameId
  rw [review, none]

theorem review_of_isStale (h : stored.IsStale registry) : stored.review registry = .ok .stale := by
  obtain ⟨r, mem, sameId, other⟩ := h
  rw [review, Registry.findActive?_eq_some_iff.2 ⟨mem, sameId⟩]
  exact if_pos other

/-- The cases of a current record are checked one after the other. -/
theorem review_of_isOf (mem : r ∈ registry.activeRules) (same : stored.IsOf r) :
    stored.review registry =
      (do return .checked (← stored.cases.mapM (RecordedCase.check r stored.id))) := by
  rw [review, Registry.findActive?_eq_some_iff.2 ⟨mem, same.1⟩]
  exact if_neg (not_not.2 same.2)

theorem review_of_forall_isReadable (mem : r ∈ registry.activeRules) (same : stored.IsOf r)
    (readable : ∀ c ∈ stored.cases, c.IsReadable) : stored.review registry =
      .ok (.checked (stored.cases.map fun c =>
        if r.Meets c then none else some (c.mismatch stored.id))) := by
  have checks : stored.cases.mapM (RecordedCase.check r stored.id) = .ok (stored.cases.map fun c =>
      if r.Meets c then none else some (c.mismatch stored.id)) :=
    mapM_eq_ok fun c there => RecordedCase.check_of_isReadable (readable c there)
  rw [review_of_isOf mem same, checks]
  rfl

/-- Only a current record can end the check, and it does so at its first case whose environment is
no object. -/
theorem review_eq_error_iff : stored.review registry = .error e ↔
    stored.IsCurrent registry ∧ ∃ c, stored.FirstUnreadable c ∧ c.fault stored.id = e := by
  rcases isOrphaned_or_isStale_or_isCurrent registry stored with orphaned | stale | current
  · simp [review_of_isOrphaned orphaned, orphaned.not_isCurrent]
  · simp [review_of_isStale stale, stale.not_isCurrent]
  · obtain ⟨r, mem, same⟩ := current
    have current : stored.IsCurrent registry := ⟨r, mem, same⟩
    have failed : stored.review registry = .error e ↔
        stored.cases.mapM (RecordedCase.check r stored.id) = .error e := by
      rw [review_of_isOf mem same, bind_eq_error_iff]
      exact or_iff_left fun ⟨_, _, returned⟩ => by cases returned
    rw [failed, mapM_eq_error_iff]
    simp only [RecordedCase.exists_check_iff, RecordedCase.check_eq_error_iff, FirstUnreadable]
    constructor
    · rintro ⟨before, c, after, split, good, bad, told⟩
      exact ⟨current, c, ⟨before, after, split, good, bad⟩, told⟩
    · rintro ⟨-, c, ⟨before, after, split, good, bad⟩, told⟩
      exact ⟨before, c, after, split, good, bad, told⟩

/-- A review that succeeds tells the state of the record, and what its cases have shown. -/
structure Reviewed (registry : Registry) (stored : RuleRecord) (review : Review) : Prop where
  readable : stored.IsCurrent registry → ∀ c ∈ stored.cases, c.IsReadable
  orphaned : review = .orphaned ↔ stored.IsOrphaned registry
  stale : review = .stale ↔ stored.IsStale registry
  casesChecked : review.checks.length = if stored.IsCurrent registry then stored.cases.length else 0
  mismatches : (review.checks.filterMap fun found => found) = stored.mismatches registry

/-- What the checks of some cases report. -/
theorem filterMap_checks (cases : List RecordedCase) (id : Int64) :
    ((cases.map fun c => if r.Meets c then none else some (c.mismatch id)).filterMap
      fun found => found) = (cases.filter fun c => ¬r.Meets c).map (·.mismatch id) := by
  induction cases with
  | nil => rfl
  | cons c cases ih =>
    rw [List.map_cons, List.filterMap_cons, ih]
    by_cases met : r.Meets c <;> simp [met]

theorem reviewed_of_review (h : stored.review registry = .ok review) :
    stored.Reviewed registry review := by
  rcases isOrphaned_or_isStale_or_isCurrent registry stored with orphaned | stale | current
  · rw [review_of_isOrphaned orphaned] at h
    cases h
    have notCurrent := orphaned.not_isCurrent
    exact ⟨fun current => absurd current notCurrent, iff_of_true rfl orphaned,
      iff_of_false nofun orphaned.not_isStale, (if_neg notCurrent).symm,
      (mismatches_of_not_isCurrent notCurrent).symm⟩
  · rw [review_of_isStale stale] at h
    cases h
    have notCurrent := stale.not_isCurrent
    exact ⟨fun current => absurd current notCurrent,
      iff_of_false nofun fun orphaned => orphaned.not_isStale stale, iff_of_true rfl stale,
      (if_neg notCurrent).symm, (mismatches_of_not_isCurrent notCurrent).symm⟩
  · obtain ⟨r, mem, same⟩ := current
    have current : stored.IsCurrent registry := ⟨r, mem, same⟩
    have readable : ∀ c ∈ stored.cases, c.IsReadable := by
      rw [review_of_isOf mem same] at h
      obtain ⟨checks, succeeded, -⟩ := bind_eq_ok_iff.1 h
      intro c there
      exact RecordedCase.exists_check_iff.1 (exists_mapM_eq_ok_iff.1 ⟨checks, succeeded⟩ c there)
    rw [review_of_forall_isReadable mem same readable] at h
    cases h
    refine ⟨fun _ => readable, iff_of_false nofun fun orphaned => orphaned.not_isCurrent current,
      iff_of_false nofun fun stale => stale.not_isCurrent current, ?_, ?_⟩
    · rw [if_pos current, Review.checks, List.length_map]
    · rw [mismatches_eq mem same, unmetBy, Review.checks, filterMap_checks]

theorem exists_review_iff : (∃ review, stored.review registry = .ok review) ↔
    (stored.IsCurrent registry → ∀ c ∈ stored.cases, c.IsReadable) := by
  constructor
  · rintro ⟨review, h⟩
    exact (reviewed_of_review h).readable
  · intro readable
    rcases isOrphaned_or_isStale_or_isCurrent registry stored with orphaned | stale | current
    · exact ⟨_, review_of_isOrphaned orphaned⟩
    · exact ⟨_, review_of_isStale stale⟩
    · obtain ⟨r, mem, same⟩ := current
      exact ⟨_, review_of_forall_isReadable mem same (readable ⟨r, mem, same⟩)⟩

theorem mismatches_eq_nil_iff : stored.mismatches registry = [] ↔
    ∀ r ∈ registry.activeRules, stored.IsOf r → ∀ c ∈ stored.cases, r.Meets c := by
  simp [mismatches, unmetBy, List.flatMap_eq_nil_iff]

end RuleRecord

/-! ## Snapshots -/

/-- The first case that is to be checked and has an environment that is no object, in the order of
the records and of their cases. -/
def Snapshot.FirstUnreadable (registry : Registry) (s : Snapshot) (stored : RuleRecord)
    (c : RecordedCase) : Prop :=
  ∃ before after, s.rules = before ++ stored :: after ∧
    (∀ earlier ∈ before, earlier.IsCurrent registry → ∀ d ∈ earlier.cases, d.IsReadable) ∧
    stored.IsCurrent registry ∧ stored.FirstUnreadable c

/-- What a verification reports of a snapshot, always in the order of the records or of the
rules. -/
structure Verification.Describes (registry : Registry) (s : Snapshot) (v : Verification) :
    Prop where
  orphaned : v.orphaned = (s.rules.filter fun stored => stored.IsOrphaned registry).map RuleRecord.id
  stale : v.stale = (s.rules.filter fun stored => stored.IsStale registry).map RuleRecord.id
  /-- The cases of all current records are checked, and no others. -/
  casesChecked : v.casesChecked =
    ((s.rules.filter fun stored => stored.IsCurrent registry).flatMap RuleRecord.cases).length
  mismatches : v.mismatches = s.rules.flatMap fun stored => stored.mismatches registry
  missing : v.missing =
    (registry.activeRules.map Rule.id).filter fun id => id ∉ s.rules.map RuleRecord.id

/-- The records are about the active rules, as these are defined now, and every rule does what the
recorded cases expect. -/
structure Snapshot.IsUpToDate (registry : Registry) (s : Snapshot) : Prop where
  ids (id : Int64) : id ∈ s.rules.map RuleRecord.id ↔ id ∈ registry.activeRules.map Rule.id
  fingerprints : ∀ stored ∈ s.rules, ∀ r ∈ registry.activeRules, r.id = stored.id →
    r.tree.fingerprint = stored.fingerprint
  cases : ∀ stored ∈ s.rules, ∀ r ∈ registry.activeRules, r.id = stored.id →
    ∀ c ∈ stored.cases, r.Meets c

/-- The review of a record under the number of the record. -/
def RuleRecord.entry (registry : Registry) (stored : RuleRecord) :
    Except SnapshotError (Int64 × Review) := do
  return (stored.id, ← stored.review registry)

namespace Snapshot

variable {registry : Registry} {s : Snapshot} {stored : RuleRecord} {v : Verification}
  {e : SnapshotError}

/-- The report on the reviews of all records. -/
def report (registry : Registry) (s : Snapshot) (reviews : List (Int64 × Review)) :
    Verification where
  casesChecked := (reviews.flatMap (·.2.checks)).length
  mismatches := (reviews.flatMap (·.2.checks)).filterMap fun found => found
  stale := idsWith .stale reviews
  missing := (registry.activeRules.map Rule.id).filter fun id => !s.rules.any (·.id == id)
  orphaned := idsWith .orphaned reviews

theorem entry_eq_ok_iff {entry : Int64 × Review} : stored.entry registry = .ok entry ↔
    entry.1 = stored.id ∧ stored.review registry = .ok entry.2 := by
  rw [RuleRecord.entry, bind_eq_ok_iff]
  constructor
  · rintro ⟨review, reviewed, returned⟩
    cases returned
    exact ⟨rfl, reviewed⟩
  · rintro ⟨sameId, reviewed⟩
    exact ⟨entry.2, reviewed, congrArg _ (Prod.ext sameId.symm rfl)⟩

theorem exists_entry_iff : (∃ entry, stored.entry registry = .ok entry) ↔
    (stored.IsCurrent registry → ∀ c ∈ stored.cases, c.IsReadable) := by
  rw [← RuleRecord.exists_review_iff]
  constructor
  · rintro ⟨entry, h⟩
    exact ⟨entry.2, (entry_eq_ok_iff.1 h).2⟩
  · rintro ⟨review, reviewed⟩
    exact ⟨(stored.id, review), entry_eq_ok_iff.2 ⟨rfl, reviewed⟩⟩

theorem entry_eq_error_iff :
    stored.entry registry = .error e ↔ stored.review registry = .error e := by
  rw [RuleRecord.entry, bind_eq_error_iff]
  refine or_iff_left ?_
  rintro ⟨review, -, returned⟩
  cases returned

theorem verify_eq_ok_iff : s.verify registry = .ok v ↔
    ∃ reviews, s.rules.mapM (RuleRecord.entry registry) = .ok reviews ∧
      s.report registry reviews = v := by
  show (s.rules.mapM (RuleRecord.entry registry) >>= fun reviews =>
    .ok (s.report registry reviews)) = _ ↔ _
  simp [bind_eq_ok_iff]

/-- The check succeeds if the environments of all cases to be checked are objects. -/
theorem exists_verify_iff : (∃ v, s.verify registry = .ok v) ↔
    ∀ stored ∈ s.rules, stored.IsCurrent registry → ∀ c ∈ stored.cases, c.IsReadable := by
  simp only [verify_eq_ok_iff, exists_comm (α := Verification), exists_and_left, exists_eq',
    and_true, exists_mapM_eq_ok_iff, exists_entry_iff]

/-- The check fails at the first case to be checked whose environment is no object. -/
theorem verify_eq_error_iff : s.verify registry = .error e ↔
    ∃ stored c, s.FirstUnreadable registry stored c ∧ c.fault stored.id = e := by
  have failed : s.verify registry = .error e ↔
      s.rules.mapM (RuleRecord.entry registry) = .error e := by
    show (s.rules.mapM (RuleRecord.entry registry) >>= fun reviews =>
      .ok (s.report registry reviews)) = _ ↔ _
    rw [bind_eq_error_iff]
    refine or_iff_left ?_
    rintro ⟨reviews, -, returned⟩
    cases returned
  rw [failed, mapM_eq_error_iff]
  simp only [exists_entry_iff, entry_eq_error_iff, RuleRecord.review_eq_error_iff]
  constructor
  · rintro ⟨before, stored, after, split, good, current, c, first, told⟩
    exact ⟨stored, c, ⟨before, after, split, good, current, first⟩, told⟩
  · rintro ⟨stored, c, ⟨before, after, split, good, current, first⟩, told⟩
    exact ⟨before, stored, after, split, good, current, c, first, told⟩

/-! ### The report -/

section

variable {records : List RuleRecord} {reviews : List (Int64 × Review)}

/-- The numbers of the records with a review, if the review tells a state of the record. -/
theorem idsWith_eq {review : Review} {state : RuleRecord → Prop} [DecidablePred state]
    (related : List.Forall₂ (fun stored entry => entry.1 = stored.id ∧
      (entry.2 = review ↔ state stored)) records reviews) :
    idsWith review reviews = (records.filter fun stored => state stored).map RuleRecord.id := by
  have filtered := List.rel_filter (p := fun stored => decide (state stored))
    (q := fun entry : Int64 × Review => entry.2 == review) (by
      rintro stored entry ⟨-, told⟩
      simp [told]) related
  exact (map_eq_map_of_forall₂ (filtered.imp fun _ _ same => same.1.symm)).symm

theorem length_flatMap_checks (related : List.Forall₂ (fun stored entry =>
      stored.Reviewed registry entry.2) records reviews) :
    (reviews.flatMap (·.2.checks)).length =
      ((records.filter fun stored => stored.IsCurrent registry).flatMap
        RuleRecord.cases).length := by
  induction related with
  | nil => rfl
  | cons first _ ih =>
    rw [List.flatMap_cons, List.length_append, ih, first.casesChecked, List.filter_cons]
    split <;> simp_all

theorem filterMap_flatMap_checks (related : List.Forall₂ (fun stored entry =>
      stored.Reviewed registry entry.2) records reviews) :
    ((reviews.flatMap (·.2.checks)).filterMap fun found => found) =
      records.flatMap fun stored => stored.mismatches registry := by
  rw [List.filterMap_flatMap, List.flatMap_def, List.flatMap_def]
  refine congrArg _ (map_eq_map_of_forall₂ ?_).symm
  exact related.imp fun _ _ reviewed => reviewed.mismatches.symm

end

/-- A check that succeeds describes the snapshot. -/
theorem describes_of_verify (h : s.verify registry = .ok v) : v.Describes registry s := by
  obtain ⟨reviews, reviewed, rfl⟩ := verify_eq_ok_iff.1 h
  have related : List.Forall₂ (fun stored entry => entry.1 = stored.id ∧
      stored.Reviewed registry entry.2) s.rules reviews := by
    refine (forall₂_of_mapM_eq_ok reviewed).imp fun stored entry succeeded => ?_
    obtain ⟨sameId, review⟩ := entry_eq_ok_iff.1 succeeded
    exact ⟨sameId, RuleRecord.reviewed_of_review review⟩
  have each := related.imp fun _ _ both => both.2
  exact {
    orphaned := idsWith_eq (related.imp fun _ _ both => ⟨both.1, both.2.orphaned⟩)
    stale := idsWith_eq (related.imp fun _ _ both => ⟨both.1, both.2.stale⟩)
    casesChecked := length_flatMap_checks each
    mismatches := filterMap_flatMap_checks each
    missing := by
      refine List.filter_congr fun id _ => ?_
      rw [Bool.eq_iff_iff]
      simp }

/-! ### Nothing to report -/

/-- A verification without entries is that of a snapshot that is up to date. -/
theorem isClean_iff_isUpToDate (h : v.Describes registry s) :
    v.isClean = true ↔ s.IsUpToDate registry := by
  have orphaned : v.orphaned = [] ↔ ∀ stored ∈ s.rules, ¬stored.IsOrphaned registry := by
    simp [h.orphaned, List.filter_eq_nil_iff]
  have stale : v.stale = [] ↔ ∀ stored ∈ s.rules, ¬stored.IsStale registry := by
    simp [h.stale, List.filter_eq_nil_iff]
  have missing : v.missing = [] ↔
      ∀ id ∈ registry.activeRules.map Rule.id, id ∈ s.rules.map RuleRecord.id := by
    simp [h.missing, List.filter_eq_nil_iff]
  have mismatches : v.mismatches = [] ↔ ∀ stored ∈ s.rules, ∀ r ∈ registry.activeRules,
      stored.IsOf r → ∀ c ∈ stored.cases, r.Meets c := by
    simp only [h.mismatches, List.flatMap_eq_nil_iff, RuleRecord.mismatches_eq_nil_iff]
  simp only [Verification.isClean, Bool.and_eq_true, List.isEmpty_iff]
  rw [orphaned, stale, missing, mismatches]
  constructor
  · rintro ⟨⟨⟨met, current⟩, recorded⟩, active⟩
    have same : ∀ stored ∈ s.rules, ∀ r ∈ registry.activeRules, r.id = stored.id →
        r.tree.fingerprint = stored.fingerprint := by
      intro stored there r mem sameId
      by_contra other
      exact current stored there ⟨r, mem, sameId, other⟩
    refine ⟨fun id => ⟨?_, recorded id⟩, same, ?_⟩
    · intro mem
      obtain ⟨stored, there, rfl⟩ := List.mem_map.1 mem
      have notOrphaned := active stored there
      unfold RuleRecord.IsOrphaned at notOrphaned
      push Not at notOrphaned
      obtain ⟨r, mem, sameId⟩ := notOrphaned
      exact List.mem_map.2 ⟨r, mem, sameId⟩
    · intro stored there r mem sameId
      exact met stored there r mem ⟨sameId, same stored there r mem sameId⟩
  · intro upToDate
    refine ⟨⟨⟨?_, ?_⟩, fun id => (upToDate.ids id).2⟩, ?_⟩
    · intro stored there r mem same
      exact upToDate.cases stored there r mem same.1
    · rintro stored there ⟨r, mem, sameId, other⟩
      exact other (upToDate.fingerprints stored there r mem sameId)
    · intro stored there orphaned
      have active := (upToDate.ids stored.id).1 (List.mem_map_of_mem there)
      obtain ⟨r, mem, sameId⟩ := List.mem_map.1 active
      exact orphaned r mem sameId

theorem exists_isClean_iff :
    (∃ v, s.verify registry = .ok v ∧ v.isClean = true) ↔ s.IsUpToDate registry := by
  constructor
  · rintro ⟨v, succeeded, clean⟩
    exact (isClean_iff_isUpToDate (describes_of_verify succeeded)).1 clean
  · intro upToDate
    have readable : ∀ stored ∈ s.rules, stored.IsCurrent registry →
        ∀ c ∈ stored.cases, c.IsReadable := by
      rintro stored there ⟨r, mem, same⟩ c listed
      exact RecordedCase.isReadable_of_meets (upToDate.cases stored there r mem same.1 c listed)
    obtain ⟨v, succeeded⟩ := exists_verify_iff.2 readable
    exact ⟨v, succeeded, (isClean_iff_isUpToDate (describes_of_verify succeeded)).2 upToDate⟩

/-- How the check of a snapshot ends. It fails if and only if a current record has a case whose
environment is no object, and the error is about the first such case. Otherwise every record is in
one of three states, and the report describes the snapshot. There is nothing to report if and only
if the snapshot is up to date. -/
theorem verify_finds (registry : Registry) (s : Snapshot) :
    ((∃ e, s.verify registry = .error e) ↔ ∃ stored ∈ s.rules, stored.IsCurrent registry ∧
      ∃ c ∈ stored.cases, ¬c.IsReadable) ∧
    (∀ e, s.verify registry = .error e ↔
      ∃ stored c, s.FirstUnreadable registry stored c ∧ c.fault stored.id = e) ∧
    (∀ v, s.verify registry = .ok v → v.Describes registry s) ∧
    (∀ stored ∈ s.rules,
      (stored.IsOrphaned registry ∨ stored.IsStale registry ∨ stored.IsCurrent registry) ∧
      ¬(stored.IsOrphaned registry ∧ stored.IsStale registry) ∧
      ¬(stored.IsOrphaned registry ∧ stored.IsCurrent registry) ∧
      ¬(stored.IsStale registry ∧ stored.IsCurrent registry)) ∧
    ((∃ v, s.verify registry = .ok v ∧ v.isClean = true) ↔ s.IsUpToDate registry) := by
  refine ⟨?fails, fun e => verify_eq_error_iff, fun v => describes_of_verify, ?states,
    exists_isClean_iff⟩
  case fails =>
    have failed : (∃ e, s.verify registry = .error e) ↔ ¬∃ v, s.verify registry = .ok v := by
      cases s.verify registry <;> simp
    rw [failed, exists_verify_iff]
    push Not
    rfl
  case states =>
    intro stored _
    exact ⟨RuleRecord.isOrphaned_or_isStale_or_isCurrent registry stored,
      fun both => both.1.not_isStale both.2, fun both => both.1.not_isCurrent both.2,
      fun both => both.1.not_isCurrent both.2⟩

end Snapshot

end RuleActivation
