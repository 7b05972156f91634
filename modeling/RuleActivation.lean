import RuleActivation.Main
import RuleActivation.Proofs.Json.Building
import RuleActivation.Proofs.Json.Canonical
import RuleActivation.Proofs.Decimal.Addition
import RuleActivation.Proofs.Decimal.Spelling
import RuleActivation.Proofs.Decimal.Largest
import RuleActivation.Proofs.Rule.Fingerprint
import RuleActivation.Proofs.Rule.Failure
import RuleActivation.Proofs.Rule.Rereading
import RuleActivation.Proofs.Rule.Spelling
import RuleActivation.Proofs.Schema.Loading
import RuleActivation.Proofs.Schema.Writing
import RuleActivation.Proofs.Registry.Building
import RuleActivation.Proofs.Registry.Session
import RuleActivation.Proofs.Evaluation.Meaning
import RuleActivation.Proofs.Evaluation.Reach
import RuleActivation.Proofs.Evaluation.Trace
import RuleActivation.Proofs.Evaluation.Visibility
import RuleActivation.Proofs.Evaluation.Withholding
import RuleActivation.Proofs.Boundary.Outcome
import RuleActivation.Proofs.Boundary.Spelling
import RuleActivation.Proofs.Synthesis.Exclusion
import RuleActivation.Proofs.Synthesis.Expectation
import RuleActivation.Proofs.Synthesis.Spelling
import RuleActivation.Proofs.Coverage.Report
import RuleActivation.Proofs.Environment
import RuleActivation.Proofs.Snapshot.Ensures
import RuleActivation.Proofs.Snapshot.Resaving
import RuleActivation.Proofs.Snapshot.Review
import RuleActivation.Proofs.CommandLine.Snapshot
import RuleActivation.Proofs.Decimal.Reading
import RuleActivation.Proofs.Decimal.Agreement
import RuleActivation.Proofs.Boundary.Exactness
import RuleActivation.Proofs.Boundary.Negation
import RuleActivation.Proofs.Synthesis.Accounting
import RuleActivation.Proofs.Synthesis.Interval
import RuleActivation.Proofs.CommandLine.Arguments
import RuleActivation.Proofs.CommandLine.Printing
import RuleActivation.Proofs.Rule.Grammar
import RuleActivation.Proofs.Registry.Culprit
import RuleActivation.Proofs.Registry.Keys
import RuleActivation.Proofs.Synthesis.Workers
import RuleActivation.Proofs.Rule.Positions
import RuleActivation.Proofs.Evaluation.Comparison
import RuleActivation.Proofs.Coverage.Table
import RuleActivation.Proofs.Synthesis.Naming
