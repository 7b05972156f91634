import RuleActivation.Snapshot.Decode

/-!
# Verifying snapshots

A snapshot is checked against a registry. A record without an active rule is orphaned, one whose
rule has another definition is stale, and the cases of all others are evaluated again.

## Main definitions

* `Review`: what becomes of one record
* `Verification`: what becomes of a snapshot
* `Snapshot.verify`: the check
-/

namespace RuleActivation

/-- A case whose evaluation is not what its record expects. -/
structure Disagreement where
  rule : Int64
  label : CaseLabel
  expected : Bool
  actual : Bool
  deriving DecidableEq, Repr

/-- What becomes of the record of a rule. -/
inductive Review where
  | orphaned
  | stale
  | checked (checks : List (Option Disagreement))
  deriving DecidableEq, Repr

/-- The outcome of a verification. -/
structure Verification where
  casesChecked : Nat
  mismatches : List Disagreement
  stale : List Int64
  missing : List Int64
  orphaned : List Int64
  deriving DecidableEq, Repr

/-- Whether a verification has found nothing to report. -/
def Verification.isClean (v : Verification) : Bool :=
  v.mismatches.isEmpty && v.stale.isEmpty && v.missing.isEmpty && v.orphaned.isEmpty

/-! ## Records -/

/-- The disagreement of a recorded case with evaluation, if there is one. -/
def RecordedCase.check (r : Rule) (id : Int64) (c : RecordedCase) :
    Except SnapshotError (Option Disagreement) :=
  match Environment.ofJson c.environment with
  | .error fault => .error (.environment id c.label fault)
  | .ok env =>
    let actual := r.evaluate env
    .ok (if actual = c.expected then none else some ⟨id, c.label, c.expected, actual⟩)

/-- The active rule with a given number. -/
def Registry.findActive? (registry : Registry) (id : Int64) : Option Rule :=
  (registry.find? id).filter Rule.active

/-- What becomes of a record. The cases of another definition say nothing about the rule. -/
def RuleRecord.review (registry : Registry) (stored : RuleRecord) :
    Except SnapshotError Review :=
  match registry.findActive? stored.id with
  | none => .ok .orphaned
  | some r =>
    if r.tree.fingerprint ≠ stored.fingerprint then .ok .stale
    else do
      return .checked (← stored.cases.mapM (RecordedCase.check r stored.id))

namespace Review

/-- What the checks of the cases have found, case by case. -/
def checks : Review → List (Option Disagreement)
  | checked checks => checks
  | _ => []

end Review

/-! ## Snapshots -/

namespace Snapshot

/-- The numbers of the records that a review is given for. -/
def idsWith (review : Review) (reviews : List (Int64 × Review)) : List Int64 :=
  (reviews.filter fun entry => entry.2 == review).map Prod.fst

/-- The check of a snapshot against a registry. The first environment that cannot be read ends
it. -/
def verify (s : Snapshot) (registry : Registry) : Except SnapshotError Verification := do
  let reviews ← s.rules.mapM fun stored => do
    return (stored.id, ← stored.review registry)
  let checks := reviews.flatMap (·.2.checks)
  return {
    casesChecked := checks.length
    mismatches := checks.filterMap fun found => found
    stale := idsWith .stale reviews
    missing := (registry.activeRules.map Rule.id).filter fun id =>
      !s.rules.any (·.id == id)
    orphaned := idsWith .orphaned reviews }

end Snapshot

/-! ## JSON -/

/-- The JSON document of a disagreement. -/
def Disagreement.toJson (m : Disagreement) : Json :=
  .object [("rule_id", .ofInt m.rule.toInt), ("label", .string m.label.text),
    ("expected", .bool m.expected), ("actual", .bool m.actual)]

/-- The JSON document of a verification. -/
def Verification.toJson (v : Verification) : Json :=
  .object [("cases_checked", .ofNat v.casesChecked),
    ("mismatches", .ofList Disagreement.toJson v.mismatches),
    ("stale", .ofList (.ofInt ·.toInt) v.stale),
    ("missing", .ofList (.ofInt ·.toInt) v.missing),
    ("orphaned", .ofList (.ofInt ·.toInt) v.orphaned)]

end RuleActivation
