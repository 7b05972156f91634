import RuleActivation.CommandLine.Arguments
import RuleActivation.Coverage.Document
import RuleActivation.Evaluation.Document
import RuleActivation.Snapshot.Verify
import RuleActivation.Text.Column

/-!
# Output of the commands

What the commands print, as lines of text or as JSON documents.

## Main definitions

* `Output`: the exit code and what is printed
* `Output.present`, `Output.fail`: the output of a command that succeeds, or fails
* `activationLines`, `traceLines`, `listLines`, …: the lines of text
* `listDocument`, `traceDocument`, …: the JSON documents
-/

namespace RuleActivation.CommandLine

/-! ## Outputs -/

/-- The exit code of a command, and what it prints. -/
structure Output where
  exit : Nat
  stdout : String
  stderr : String
  deriving DecidableEq, Repr

namespace Output

/-- Prints a text, or the text of a JSON document, unless the command is quiet. -/
def print (inv : Invocation) (exit : Nat) (text : String) (document : String) : Output :=
  if inv.quiet then ⟨exit, "", ""⟩
  else match inv.format with
    | .text => ⟨exit, text, ""⟩
    | .json => ⟨exit, document ++ "\n", ""⟩

/-- Prints lines, or a JSON document over several lines, unless the command is quiet. -/
def present (inv : Invocation) (exit : Nat) (lines : List String) (document : Json) : Output :=
  print inv exit (textOfLines lines) document.pretty

/-- Reports that a command fails, unless it is quiet. -/
def failWith (inv : Invocation) (lines : List String) (document : String) : Output :=
  if inv.quiet then ⟨1, "", ""⟩
  else match inv.format with
    | .text => ⟨1, "", textOfLines lines⟩
    | .json => ⟨1, "", document ++ "\n"⟩

/-- Reports an error that ends a command, unless the command is quiet. -/
def fail (inv : Invocation) (message : String) : Output :=
  failWith inv [message] (Json.object [("error", .string message)]).compact

end Output

/-! ## Decisions -/

/-- The word for a decision. -/
def verdict (activated : Bool) : String := if activated then "activated" else "not activated"

/-- The line of a decision. -/
def verdictLine (id : Int64) (name : String) (activated : Bool) : String :=
  "rule " ++ toString id.toInt ++ " (" ++ name ++ "): " ++ verdict activated

/-- The warning about a mismatch. -/
def warning (m : Mismatch) : String :=
  "warning: " ++ m.variableName ++ " at " ++ m.position.text ++ ": " ++ m.operator.name ++
    " cannot compare " ++ m.observed.name ++ " (expects " ++
    " or ".intercalate (m.expected.map Kind.name) ++ ")"

/-- The lines of the decision on one rule. -/
def activationLines (a : Activation) : List String :=
  verdictLine a.rule a.name a.activated :: a.mismatches.map ("  " ++ warning ·)

/-- The lines of the decision on one of several rules. -/
def entryLines (a : Activation) : List String :=
  ((if a.activated then "[x] " else "[ ] ") ++ Text.alignRight 4 (toString a.rule.toInt) ++ " " ++
    a.name) :: a.mismatches.map ("         " ++ warning ·)

/-- The lines of the decisions on all rules. -/
def activationsLines (as : List Activation) : List String :=
  as.flatMap entryLines ++
    ["", toString (as.countP (·.activated)) ++ " of " ++ toString as.length ++
      " active rules activated"]

/-- The JSON document of the decisions on all rules. -/
def activationsDocument (as : List Activation) : Json :=
  (Json.object [("activations", .ofList Activation.toJson as)]).canonical

/-! ## Traces -/

/-- The words for an outcome. -/
def outcomeWords : Option Outcome → String
  | none => "skipped"
  | some .matched => "matched"
  | some .notMatched => "not matched"
  | some (.absent true) => "absent (satisfied)"
  | some (.absent false) => "absent"
  | some .mismatch => "type mismatch"

/-- The line of a leaf. -/
def leafLine (r : LeafRecord) : String :=
  "  " ++ Text.alignLeft 12 r.position.text ++ " " ++ r.variableName ++ " " ++ r.operator.name ++
    " [" ++ r.observed.name ++ "] -> " ++ outcomeWords r.outcome

/-- The lines of a trace. -/
def traceLines (r : Rule) (trace : Trace) (mismatches : List Mismatch) : List String :=
  verdictLine r.id r.name trace.activated ::
    (trace.leaves.map leafLine ++ mismatches.map ("  " ++ warning ·))

/-- The JSON document of a trace. -/
def traceDocument (r : Rule) (trace : Trace) (mismatches : List Mismatch) : Json :=
  (Json.object [("rule_id", .ofInt r.id.toInt), ("name", .string r.name),
    ("activated", .bool trace.activated), ("leaves", .ofList LeafRecord.toJson trace.leaves),
    ("diagnostics", .ofList Mismatch.toJson mismatches)]).canonical

/-! ## Rules -/

/-- The line of a rule. -/
def ruleLine (r : Rule) : String :=
  Text.alignRight 4 (toString r.id.toInt) ++ " " ++ Text.alignLeft 32 r.name ++ " " ++
    Text.alignRight 2 (toString r.variableNames.length) ++ " vars" ++
    (if r.active then "" else " (inactive)") ++ "  " ++ r.title

/-- The JSON document of a rule in the list of rules. -/
def ruleDocument (r : Rule) : Json :=
  .object [("id", .ofInt r.id.toInt), ("name", .string r.name), ("title", .string r.title),
    ("active", .bool r.active), ("variables", .ofList .string r.variableNames),
    ("fingerprint", .string r.tree.fingerprint)]

/-- The lines of the list of rules. -/
def listLines (registry : Registry) : List String := registry.rules.map ruleLine

/-- The JSON document of the list of rules. -/
def listDocument (registry : Registry) : Json :=
  (Json.object [("rules", .ofList ruleDocument registry.rules)]).canonical

/-! ## Coverage -/

/-- The lines of the coverage totals. -/
def statsLines (c : CoverageTotals) : List String :=
  ["Coverage", "========", "",
    "  Rules:            " ++ toString c.ruleCount ++ " (" ++ toString c.activeRuleCount ++
      " active)",
    "  Unique variables: " ++ toString c.uniqueVariables,
    "  Generated cases:  " ++ toString c.totalCases,
    "  Unsynthesizable:  " ++ toString c.totalUnbuilt,
    "  Excluded rules:   " ++ toString c.excludedRules,
    "  Fully covered:    " ++ c.ratioText]

/-! ## Snapshots -/

/-- The line of a snapshot that has been written. -/
def writtenLine (path : String) (s : Snapshot) : String :=
  "wrote " ++ toString s.caseCount ++ " cases for " ++ toString s.rules.length ++ " rules to " ++
    path

/-- The JSON document of a snapshot that has been written. -/
def writtenDocument (path : String) (s : Snapshot) : Json :=
  (Json.object [("path", .string path), ("rules", .ofNat s.rules.length),
    ("cases", .ofNat s.caseCount)]).canonical

/-- The line of a disagreement. -/
def mismatchLine (m : Disagreement) : String :=
  "mismatch: rule " ++ toString m.rule.toInt ++ " case " ++ m.label.text ++ ": stored " ++
    toString m.expected ++ ", evaluator returns " ++ toString m.actual

/-- The last line of a verification. -/
def verificationSummary (v : Verification) : String :=
  if v.isClean then "snapshot ok: " ++ toString v.casesChecked ++ " cases checked"
  else "snapshot out of date: " ++ toString v.mismatches.length ++ " mismatches, " ++
    toString v.stale.length ++ " stale, " ++ toString v.missing.length ++ " missing, " ++
    toString v.orphaned.length ++ " orphaned"

/-- The lines of a verification. -/
def verificationLines (v : Verification) : List String :=
  v.mismatches.map mismatchLine ++
    v.stale.map (fun id =>
      "stale: rule " ++ toString id.toInt ++ " changed since the snapshot was taken") ++
    v.missing.map (fun id =>
      "missing: rule " ++ toString id.toInt ++ " has no snapshot entry") ++
    v.orphaned.map (fun id =>
      "orphaned: snapshot entry for rule " ++ toString id.toInt ++ " has no active rule") ++
    [verificationSummary v]

/-- The JSON document of a verification. -/
def verificationDocument (v : Verification) : Json :=
  (Json.object [("clean", .bool v.isClean), ("verification", v.toJson)]).canonical

end RuleActivation.CommandLine
