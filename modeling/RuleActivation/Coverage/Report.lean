import RuleActivation.Binary64.Shortest
import RuleActivation.Synthesis.Basic

/-!
# Coverage

What the synthesis of a registry's rules could build and what it could not: one row for every
rule, and totals.

## Main definitions

* `CoverageStatus`: how far a rule is covered
* `CoverageRow`, `CoverageTotals`, `CoverageReport`: a row, the totals, the report
* `CoverageReport.build`: the report on a registry and some syntheses
* `Registry.analyze`: the syntheses of a registry and the report on them
-/

namespace RuleActivation

/-- How far a rule is covered. -/
inductive CoverageStatus where
  /-- Every planned case has been built. -/
  | covered
  /-- Some negative cases could not be built. -/
  | partly
  /-- There is no baseline. -/
  | excluded
  /-- The rule is switched off. -/
  | inactive
  deriving DecidableEq, Repr

/-- The name of a status. -/
def CoverageStatus.name : CoverageStatus → String
  | covered => "covered"
  | partly => "partial"
  | excluded => "excluded"
  | inactive => "inactive"

/-- The coverage of one rule. -/
structure CoverageRow where
  rule : Int64
  name : String
  title : String
  active : Bool
  variableCount : Nat
  leafCount : Nat
  caseCount : Nat
  unbuiltCount : Nat
  status : CoverageStatus
  deriving DecidableEq, Repr

/-- The totals of a report. -/
structure CoverageTotals where
  ruleCount : Nat
  activeRuleCount : Nat
  uniqueVariables : Nat
  totalCases : Nat
  totalUnbuilt : Nat
  excludedRules : Nat
  fullyCoveredRules : Nat
  deriving DecidableEq, Repr

/-- The coverage of a registry. -/
structure CoverageReport where
  rows : List CoverageRow
  totals : CoverageTotals
  deriving DecidableEq, Repr

/-! ## Rows -/

/-- How far a rule is covered by its synthesis. A rule without one counts as excluded. -/
def CoverageStatus.ofSynthesis : Option Synthesis → CoverageStatus
  | none => excluded
  | some s =>
    if s.excluded.isSome then excluded
    else if s.unbuilt.isEmpty then covered
    else partly

/-- The row of a rule, among whose syntheses the first one of its number counts. A rule that is
switched off has no cases, whatever has been synthesized. -/
def CoverageRow.of (syntheses : List Synthesis) (r : Rule) : CoverageRow :=
  let synthesis := if r.active then syntheses.find? (·.rule == r.id) else none
  { rule := r.id
    name := r.name
    title := r.title
    active := r.active
    variableCount := r.variableNames.length
    leafCount := r.tree.leaves.length
    caseCount := synthesis.elim 0 (·.cases.length)
    unbuiltCount := synthesis.elim 0 (·.unbuilt.length)
    status := if r.active then .ofSynthesis synthesis else .inactive }

/-! ## Totals -/

/-- The sum of some counts. -/
def total (counts : List Nat) : Nat := counts.foldr (· + ·) 0

/-- The totals of a list of rows, with the number of variables of active rules. -/
def CoverageTotals.of (uniqueVariables : Nat) (rows : List CoverageRow) : CoverageTotals where
  ruleCount := rows.length
  activeRuleCount := rows.countP (·.active)
  uniqueVariables := uniqueVariables
  totalCases := total (rows.map (·.caseCount))
  totalUnbuilt := total (rows.map (·.unbuiltCount))
  excludedRules := rows.countP (·.status == .excluded)
  fullyCoveredRules := rows.countP (·.status == .covered)

/-- The fully covered rules in percent of the active ones; zero if there are none. -/
def CoverageTotals.percentage (c : CoverageTotals) : Binary64 :=
  if c.activeRuleCount = 0 then .nearest ⟨0, 1⟩
  else .nearest ⟨100 * c.fullyCoveredRules, c.activeRuleCount⟩

/-! ## Reports -/

/-- The set of the variables that some rules use. -/
def variableSet (rules : List Rule) : Dictionary Unit :=
  .ofList ((rules.flatMap Rule.variableNames).map (·, ()))

namespace CoverageReport

/-- The report on a registry and some syntheses of its rules. Rules that are switched off do not
count for the variables. -/
def build (registry : Registry) (syntheses : List Synthesis) : CoverageReport :=
  let rows := registry.rules.map (CoverageRow.of syntheses)
  { rows
    totals := .of (variableSet (registry.rules.filter Rule.active)).size rows }

/-- The row of the rule with a given number. -/
def row? (report : CoverageReport) (id : Int64) : Option CoverageRow :=
  report.rows.find? (·.rule == id)

end CoverageReport

/-- The syntheses of all active rules and the report on them. -/
def Registry.analyze (registry : Registry) : List Synthesis × CoverageReport :=
  (registry.synthesize, .build registry registry.synthesize)

end RuleActivation
