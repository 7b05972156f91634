import Mathlib.Data.List.Nodup
import RuleActivation.Coverage.Report
import RuleActivation.Proofs.Synthesis.Cases
import RuleActivation.Snapshot.Basic

/-!
# What a coverage report counts

The report on a registry is made from the syntheses of its rules, which are found by the numbers of
the rules. Since numbers are distinct, every row is about the synthesis of its own rule. The totals
therefore count what the syntheses hold, which is also what a snapshot records.

## Main definitions

* `CoverageRow.Describes`: what a row says of a rule
* `CoverageReport.Counts`: what the totals count

## Main results

* `Registry.find?_synthesize`: the synthesis that is found for a rule
* `Registry.size_variableSet`: the number of variables
* `Registry.analyze_describes`: the report on a registry
-/

namespace RuleActivation

/-! ## Rows -/

/-- A row describes a rule: its number, names and sizes, how many cases have been built for it and
how many could not be, and how far it is covered. -/
structure CoverageRow.Describes (r : Rule) (row : CoverageRow) : Prop where
  rule : row.rule = r.id
  name : row.name = r.name
  title : row.title = r.title
  active : row.active = r.active
  variableCount : row.variableCount = r.variableNames.length
  leafCount : row.leafCount = r.tree.leaves.length
  /-- There is a case for the baseline and there are two for each leaf. -/
  planned : r.active = true → r.synthesize.excluded = none →
    row.caseCount + row.unbuiltCount = 2 * row.leafCount + 1
  /-- Without a baseline, or without a synthesis, there is nothing to count. -/
  empty : r.active = false ∨ r.synthesize.excluded ≠ none →
    row.caseCount = 0 ∧ row.unbuiltCount = 0
  covered : row.status = .covered ↔ r.active = true ∧ r.synthesize.isComplete = true
  partly : row.status = .partly ↔
    r.active = true ∧ r.synthesize.excluded = none ∧ r.synthesize.unbuilt ≠ []
  excluded : row.status = .excluded ↔ r.active = true ∧ r.synthesize.excluded ≠ none
  inactive : row.status = .inactive ↔ r.active = false

/-- The synthesis of an active rule is found by the number of the rule, which no other rule has. -/
theorem Registry.find?_synthesize {registry : Registry} {r : Rule}
    (h : r ∈ registry.activeRules) :
    registry.synthesize.find? (·.rule == r.id) = some r.synthesize := by
  have mem : r ∈ registry.rules := List.mem_of_mem_filter h
  rw [synthesize, List.find?_map]
  cases found : registry.activeRules.find? ((·.rule == r.id) ∘ Rule.synthesize) with
  | none =>
    have unlike := List.find?_eq_none.1 found r h
    simp [Rule.rule_synthesize] at unlike
  | some other =>
    have sameId : other.id = r.id := by
      simpa [Rule.rule_synthesize] using List.find?_some found
    have otherMem := List.mem_of_mem_filter (List.mem_of_find?_eq_some found)
    rw [Option.map_some, List.inj_on_of_nodup_map registry.distinct_ids otherMem mem sameId]

namespace CoverageStatus

variable {s : Synthesis}

theorem ofSynthesis_eq_covered_iff : ofSynthesis (some s) = .covered ↔ s.isComplete = true := by
  rw [Synthesis.isComplete]
  cases excluded : s.excluded <;> cases unbuilt : s.unbuilt <;> simp [ofSynthesis, *]

theorem ofSynthesis_eq_partly_iff :
    ofSynthesis (some s) = .partly ↔ s.excluded = none ∧ s.unbuilt ≠ [] := by
  cases excluded : s.excluded <;> cases unbuilt : s.unbuilt <;> simp [ofSynthesis, *]

theorem ofSynthesis_eq_excluded_iff : ofSynthesis (some s) = .excluded ↔ s.excluded ≠ none := by
  cases excluded : s.excluded <;> cases unbuilt : s.unbuilt <;> simp [ofSynthesis, *]

theorem ofSynthesis_ne_inactive : ofSynthesis (some s) ≠ .inactive := by
  cases excluded : s.excluded <;> cases unbuilt : s.unbuilt <;> simp [ofSynthesis, *]

end CoverageStatus

namespace CoverageRow

variable {registry : Registry} {r : Rule}

/-- The row of a rule has the counts and the status of its own synthesis. -/
theorem of_synthesize (mem : r ∈ registry.rules) : of registry.synthesize r =
    { rule := r.id
      name := r.name
      title := r.title
      active := r.active
      variableCount := r.variableNames.length
      leafCount := r.tree.leaves.length
      caseCount := if r.active then r.synthesize.cases.length else 0
      unbuiltCount := if r.active then r.synthesize.unbuilt.length else 0
      status := if r.active then .ofSynthesis (some r.synthesize) else .inactive } := by
  rw [of]
  cases active : r.active with
  | true =>
    have found := Registry.find?_synthesize (List.mem_filter.2 ⟨mem, active⟩)
    simp only [if_true, found, Option.elim_some]
  | false => rfl

/-- Every row of the report describes its rule. -/
theorem describes_of (mem : r ∈ registry.rules) : Describes r (of registry.synthesize r) := by
  rw [of_synthesize mem]
  cases active : r.active with
  | true =>
    refine ⟨rfl, rfl, rfl, active.symm, rfl, rfl, fun _ => r.length_cases_add_length_unbuilt, ?_,
      ?_, ?_, ?_, ?_⟩
    · rintro (inactive | excluded)
      · cases active.symm.trans inactive
      · obtain ⟨noCases, noneLeft⟩ := Rule.eq_nil_of_excluded excluded
        simp [noCases, noneLeft]
    · simp [active, CoverageStatus.ofSynthesis_eq_covered_iff]
    · simp [active, CoverageStatus.ofSynthesis_eq_partly_iff]
    · simp [active, CoverageStatus.ofSynthesis_eq_excluded_iff]
    · simp [active, CoverageStatus.ofSynthesis_ne_inactive]
  | false =>
    refine ⟨rfl, rfl, rfl, active.symm, rfl, rfl, ?_, fun _ => ⟨rfl, rfl⟩, ?_, ?_, ?_, ?_⟩
    · intro isActive
      cases active.symm.trans isActive
    all_goals simp [active]

end CoverageRow

/-! ## Totals -/

/-- The number of rows with a status. -/
def CoverageReport.countOf (report : CoverageReport) (status : CoverageStatus) : Nat :=
  report.rows.countP (·.status == status)

/-- What the totals of a report on a registry and some syntheses count. -/
structure CoverageReport.Counts (registry : Registry) (syntheses : List Synthesis)
    (report : CoverageReport) : Prop where
  ruleCount : report.totals.ruleCount = registry.rules.length
  activeRuleCount : report.totals.activeRuleCount = registry.activeRules.length
  uniqueVariables : report.totals.uniqueVariables = registry.activeVariables.length
  totalCases : report.totals.totalCases = (syntheses.flatMap Synthesis.cases).length
  recordedCases : report.totals.totalCases = (Snapshot.build registry).caseCount
  totalUnbuilt : report.totals.totalUnbuilt = (syntheses.flatMap Synthesis.unbuilt).length
  fullyCoveredRules : report.totals.fullyCoveredRules = report.countOf .covered
  excludedRules : report.totals.excludedRules = report.countOf .excluded
  /-- Every active rule has one of three states. -/
  activeStates : report.countOf .covered + report.countOf .partly + report.countOf .excluded =
    report.totals.activeRuleCount
  /-- Every rule has one of these states, or it is switched off. -/
  states : report.countOf .covered + report.countOf .partly + report.countOf .excluded +
    report.countOf .inactive = report.totals.ruleCount

/-- A sum over all rules in which some count for nothing is a sum over the others. -/
theorem sum_map_ite_active (rules : List Rule) (count : Rule → Nat) :
    (rules.map fun r => if r.active then count r else 0).sum =
      ((rules.filter Rule.active).map count).sum := by
  induction rules with
  | nil => rfl
  | cons r rules ih => cases active : r.active <;> simp [active, ih]

/-- Every row has one of the states. -/
theorem CoverageReport.countOf_add_countOf (report : CoverageReport) :
    report.countOf .covered + report.countOf .partly + report.countOf .excluded +
      report.countOf .inactive = report.rows.length := by
  unfold countOf
  induction report.rows with
  | nil => rfl
  | cons row rows ih => cases status : row.status <;> simp [status] <;> omega

namespace Registry

variable (registry : Registry)

/-- There are as many names in the set of the active rules' variables as there are first
occurrences. -/
theorem size_variableSet :
    (variableSet registry.activeRules).size = registry.activeVariables.length := by
  have distinct := (variableSet registry.activeRules).nodup_keys
  have same : (variableSet registry.activeRules).keys.Perm registry.activeVariables := by
    refine (List.perm_ext_iff_of_nodup distinct (Node.nodup_firstOccurrences _)).2 fun name => ?_
    rw [variableSet, Dictionary.mem_keys_ofList, Node.mem_firstOccurrences]
    simp
  rw [← same.length_eq, Dictionary.keys, List.length_map, Dictionary.size]

/-- What the rows count in the syntheses of the active rules is there in the list of all. -/
theorem total_map_rows {α : Type} {count : CoverageRow → Nat} {parts : Synthesis → List α}
    (h : ∀ r ∈ registry.rules, count (.of registry.synthesize r) =
      if r.active then (parts r.synthesize).length else 0) :
    total (registry.analyze.2.rows.map count) = (registry.synthesize.flatMap parts).length := by
  have counts : registry.analyze.2.rows.map count =
      registry.rules.map fun r => if r.active then (parts r.synthesize).length else 0 := by
    rw [analyze, CoverageReport.build, List.map_map]
    exact List.map_congr_left h
  rw [counts, List.length_flatMap, synthesize, List.map_map]
  exact sum_map_ite_active registry.rules _

/-- A snapshot records the cases of all syntheses. -/
theorem caseCount_build :
    (Snapshot.build registry).caseCount = (registry.synthesize.flatMap Synthesis.cases).length := by
  have recorded (r : Rule) : (RuleRecord.ofSynthesis r r.synthesize).cases.length =
      r.synthesize.cases.length := List.length_map _
  rw [Snapshot.caseCount, Snapshot.build, synthesize, List.flatMap_map, List.flatMap_map,
    List.length_flatMap, List.length_flatMap]
  exact congrArg List.sum (List.map_congr_left fun r _ => recorded r)

theorem countP_active :
    registry.analyze.2.rows.countP (·.active) = registry.activeRules.length := by
  rw [analyze, CoverageReport.build, List.countP_map, activeRules, ← List.countP_eq_length_filter]
  rfl

/-- The rows that are not inactive are those of the active rules. -/
theorem countOf_inactive_add : registry.analyze.2.rows.countP (·.active) +
    registry.analyze.2.countOf .inactive = registry.analyze.2.rows.length := by
  have states : registry.analyze.2.countOf .inactive =
      registry.analyze.2.rows.countP (fun row => ¬ row.active = true) := by
    apply List.countP_congr
    intro row mem
    obtain ⟨r, there, rfl⟩ := List.mem_map.1 mem
    simp [(CoverageRow.describes_of there).inactive, (CoverageRow.describes_of there).active]
  rw [states, ← List.length_eq_countP_add_countP]

/-- The report on a registry has a row for each rule, in the order of the rules, which describes it.
The totals count the cases of all syntheses, which are those of its snapshot, and the variables and
states of its rules. -/
theorem analyze_describes :
    registry.analyze.1 = registry.activeRules.map Rule.synthesize ∧
      List.Forall₂ CoverageRow.Describes registry.rules registry.analyze.2.rows ∧
      registry.analyze.2.Counts registry registry.analyze.1 := by
  refine ⟨rfl, ?_, ?_⟩
  · exact List.forall₂_map_right_iff.2
      (List.forall₂_same.2 fun r mem => CoverageRow.describes_of mem)
  · have built : registry.analyze.2.totals.totalCases =
        (registry.synthesize.flatMap Synthesis.cases).length :=
      registry.total_map_rows fun r mem => by rw [CoverageRow.of_synthesize mem]
    have unbuilt : registry.analyze.2.totals.totalUnbuilt =
        (registry.synthesize.flatMap Synthesis.unbuilt).length :=
      registry.total_map_rows fun r mem => by rw [CoverageRow.of_synthesize mem]
    have length : registry.analyze.2.rows.length = registry.rules.length := List.length_map _
    have states := registry.analyze.2.countOf_add_countOf
    have inactive := registry.countOf_inactive_add
    exact {
      ruleCount := length
      activeRuleCount := registry.countP_active
      uniqueVariables := registry.size_variableSet
      totalCases := built
      recordedCases := built.trans registry.caseCount_build.symm
      totalUnbuilt := unbuilt
      fullyCoveredRules := rfl
      excludedRules := rfl
      activeStates := by
        show _ = registry.analyze.2.rows.countP (·.active)
        omega
      states := states }

end Registry

end RuleActivation
