import RuleActivation.Coverage.Report

/-!
# Documents of a coverage report

A report is written as a markdown document, with the totals as a list and one table line for
every rule, or as JSON. In a table cell a pipe is written with a backslash before it.

## Main definitions

* `CoverageReport.markdown`: the markdown document
* `CoverageTotals.toJson`, `CoverageRow.toJson`, `CoverageReport.toJson`: the JSON documents
-/

namespace RuleActivation

/-! ## Markdown -/

/-- A text as the content of a table cell. -/
def tableCell (s : String) : String :=
  String.ofList (s.toList.flatMap fun c => if c = '|' then ['\\', '|'] else [c])

/-- The table line of a rule. -/
def CoverageRow.tableLine (r : CoverageRow) : String :=
  "| " ++ " | ".intercalate
    [toString r.rule.toInt, tableCell r.name, if r.active then "yes" else "no",
      toString r.variableCount, toString r.caseCount, r.status.name] ++ " |"

/-- The fully covered rules, the active ones, and the percentage. -/
def CoverageTotals.ratioText (c : CoverageTotals) : String :=
  toString c.fullyCoveredRules ++ "/" ++ toString c.activeRuleCount ++ " (" ++
    c.percentage.hundredths.text ++ "%)"

/-- The lines of the totals. -/
def CoverageTotals.summaryLines (c : CoverageTotals) : List String :=
  ["- Rules: " ++ toString c.ruleCount ++ " (" ++ toString c.activeRuleCount ++ " active)",
    "- Unique variables: " ++ toString c.uniqueVariables,
    "- Generated cases: " ++ toString c.totalCases,
    "- Unsynthesizable cases: " ++ toString c.totalUnbuilt,
    "- Excluded rules: " ++ toString c.excludedRules,
    "- Fully covered: " ++ c.ratioText]

/-- Lines as a text in which each of them ends. -/
def textOfLines (lines : List String) : String := String.join (lines.map (· ++ "\n"))

/-- The lines before the table's body. -/
def CoverageReport.headLines (report : CoverageReport) : List String :=
  ["# Rule coverage", ""] ++ report.totals.summaryLines ++
    ["", "| id | name | active | variables | cases | status |",
      "|---:|------|:------:|----------:|------:|--------|"]

/-- The markdown document of a report. -/
def CoverageReport.markdown (report : CoverageReport) : String :=
  textOfLines (report.headLines ++ report.rows.map CoverageRow.tableLine)

/-! ## JSON -/

/-- The JSON document of a row. -/
def CoverageRow.toJson (r : CoverageRow) : Json :=
  .object [("rule_id", .ofInt r.rule.toInt), ("name", .string r.name), ("title", .string r.title),
    ("active", .bool r.active), ("variable_count", .ofNat r.variableCount),
    ("leaf_count", .ofNat r.leafCount), ("case_count", .ofNat r.caseCount),
    ("unsynthesizable_count", .ofNat r.unbuiltCount), ("status", .string r.status.name)]

/-- The JSON document of the totals. -/
def CoverageTotals.toJson (c : CoverageTotals) : Json :=
  .object [("rule_count", .ofNat c.ruleCount), ("active_rule_count", .ofNat c.activeRuleCount),
    ("unique_variables", .ofNat c.uniqueVariables), ("total_cases", .ofNat c.totalCases),
    ("total_unsynthesizable", .ofNat c.totalUnbuilt),
    ("excluded_rules", .ofNat c.excludedRules),
    ("fully_covered_rules", .ofNat c.fullyCoveredRules),
    ("fully_covered_pct", .number c.percentage.shortest)]

/-- The JSON document of a report. -/
def CoverageReport.toJson (report : CoverageReport) : Json :=
  .object [("rules", .ofList CoverageRow.toJson report.rows), ("corpus", report.totals.toJson)]

end RuleActivation
