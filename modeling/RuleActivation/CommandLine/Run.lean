import RuleActivation.CommandLine.Output
import RuleActivation.Schema

/-!
# Running commands

A command reads its files, decides what to print and with which exit code to end, and writes at
most one file. What it prints may depend on whether the file can be written.

## Main definitions

* `Reply`: what a command does after it has read its files
* `Invocation.reply`: the reply of a command to the files it reads
* `Invocation.inputs`: the paths that a command reads
* `run`: a command line in a directory
-/

namespace RuleActivation.CommandLine

/-! ## Replies -/

/-- What a command does after it has read its files. -/
inductive Reply where
  /-- It prints. -/
  | done (output : Output)
  /-- It writes a text to a path, and prints according to the success. -/
  | write (path : String) (text : String) (written : Output) (failed : FileFault → Output)

/-- The steps of a command up to its reply; a failure is a reply as well. -/
abbrev Step (α : Type) := Except Reply α

namespace Step

/-- Ends a command with an error. -/
def fail {α : Type} (inv : Invocation) (message : String) : Step α :=
  .error (.done (.fail inv message))

/-- Goes on with a result, or ends the command with the text of its error. -/
def orFail {ε α : Type} (inv : Invocation) (message : ε → String) : Except ε α → Step α
  | .ok a => .ok a
  | .error e => fail inv (message e)

/-- The reply at the end of the steps. -/
def reply : Step Reply → Reply
  | .ok r => r
  | .error r => r

end Step

/-- The JSON value in a file; `what` says what is missing without it. -/
def readJson (inv : Invocation) (read : FileReader) (what path : String) : Step Json := do
  let text ← Step.orFail inv
    (fun _ => "error: " ++ what ++ " file not found: " ++ path) (read path)
  match Json.parse? text with
  | some v => .ok v
  | none => Step.fail inv ("error: invalid JSON in " ++ path)

/-- The registry in the file of rules. -/
def readRegistry (inv : Invocation) (read : FileReader) : Step Registry := do
  let document ← readJson inv read "rules" inv.rules
  Step.orFail inv (fun e => "error: cannot load rules from " ++ inv.rules ++ ": " ++ e.message)
    (Registry.ofJson document)

/-! ## Commands -/

/-- Evaluates one rule, or all of them. -/
def evalReply (inv : Invocation) (read : FileReader) (key : Option String) (path : String)
    (trace : Bool) : Step Reply := do
  let registry ← readRegistry inv read
  let document ← readJson inv read "case" path
  let env ← Step.orFail inv (fun e => "error: invalid case in " ++ path ++ ": " ++ e.message)
    (Environment.ofJson document)
  match key with
  | none =>
    if trace then Step.fail inv "error: --trace requires a rule id or name"
    else
      let activations := registry.activations env
      return .done (.present inv 0 (activationsLines activations) (activationsDocument activations))
  | some key =>
    let r ← Step.orFail inv (fun e => "error: " ++ e.message) (registry.resolve key)
    if trace then
      let (trace, mismatches) := r.trace env
      return .done (.present inv 0 (traceLines r trace mismatches)
        (traceDocument r trace mismatches))
    else
      let activation := r.activation env
      return .done (.present inv 0 (activationLines activation) activation.toJson)

/-- Writes a snapshot. -/
def writeSnapshot (inv : Invocation) (registry : Registry) (path : String) : Reply :=
  let snapshot := Snapshot.build registry
  .write path snapshot.fileText
    (.present inv 0 [writtenLine path snapshot] (writtenDocument path snapshot))
    fun fault => .fail inv ("error: " ++ (SnapshotError.file path fault).message)

/-- Checks the snapshot in a file. -/
def checkSnapshot (inv : Invocation) (read : FileReader) (registry : Registry) (path : String) :
    Step Reply := do
  let verification ← Step.orFail inv (fun e => "error: " ++ e.message) do
    (← Snapshot.ofFile read path).verify registry
  return .done (.present inv (if verification.isClean then 0 else 1)
    (verificationLines verification) (verificationDocument verification))

/-- Prints the coverage report or writes it to a file, which only the markdown document can be
written to. -/
def reportReply (inv : Invocation) (report : CoverageReport) (out : Option String) : Reply :=
  match inv.format, out with
  | .text, some path =>
    .write path report.markdown
      (.present inv 0 ["wrote coverage report to " ++ path] .null)
      fun fault => .fail inv ("error: cannot write " ++ path ++ ": " ++ fault.message)
  | _, _ => .done (.print inv 0 report.markdown report.toJson.pretty)

/-- The problems of a document: those of its structure, or else the error of loading it. -/
def documentProblems (document : Json) : Except (List String) Registry :=
  match Schema.problems document with
  | [] => (Registry.ofJson document).mapError fun e => [e.message]
  | problems => .error (problems.map Schema.Problem.message)

/-- Tells whether a document of rules is valid. -/
def validateReply (inv : Invocation) (document : Json) : Reply :=
  match documentProblems document with
  | .ok registry =>
    .done (.print inv 0
      ("valid (" ++ toString registry.rules.length ++ " rules)\n")
      (Json.object [("rules", .ofNat registry.rules.length), ("valid", .bool true)]).compact)
  | .error problems =>
    .done (.failWith inv ("invalid rule document" :: problems.map ("  - " ++ ·))
      (Json.object [("errors", .ofList .string problems), ("valid", .bool false)]).pretty)

namespace Invocation

/-- The steps of a command. -/
def steps (inv : Invocation) (read : FileReader) : Step Reply :=
  match inv.command with
  | .list => do
    let registry ← readRegistry inv read
    return .done (.present inv 0 (listLines registry) (listDocument registry))
  | .eval key path trace => evalReply inv read key path trace
  | .snapshot out check => do
    let registry ← readRegistry inv read
    if check then checkSnapshot inv read registry out
    else return writeSnapshot inv registry out
  | .stats => do
    let report := (← readRegistry inv read).analyze.2
    return .done (.present inv 0 (statsLines report.totals) report.totals.toJson)
  | .report out => do
    return reportReply inv (← readRegistry inv read).analyze.2 out
  | .validate file => do
    return validateReply inv (← readJson inv read "rules" file)

/-- The reply of a command to the files that it reads. -/
def reply (inv : Invocation) (read : FileReader) : Reply := (inv.steps read).reply

/-- The paths that a command may read. -/
def inputs (inv : Invocation) : List String :=
  match inv.command with
  | .eval _ env _ => [inv.rules, env]
  | .snapshot out true => [inv.rules, out]
  | .validate file => [file]
  | _ => [inv.rules]

/-- A command in a directory: its output, and the directory after it. -/
def run (inv : Invocation) (d : Directory) : Output × Directory :=
  match inv.reply d.read with
  | .done output => (output, d)
  | .write path text written failed =>
    match d.write path text with
    | .ok d' => (written, d')
    | .error fault => (failed fault, d)

end Invocation

/-! ## Command lines -/

/-- The name and the number of the program's version. -/
def versionText : String := "brief 0.1.0\n"

/-- The ways to call the program. -/
def usageText : String := textOfLines [
  "Rule activation and boundary-case toolchain",
  "",
  "Usage: brief [--output text|json] [--quiet] [--rules PATH] COMMAND",
  "",
  "Commands:",
  "  list                              List the loaded rules",
  "  eval [RULE] --env PATH [--trace]  Evaluate one rule, or every active rule, against a case",
  "  snapshot [--out PATH] [--check]   Write the boundary cases, or verify written ones",
  "  stats                             Print corpus coverage totals",
  "  report [--out PATH]               Render the per-rule coverage report as markdown",
  "  validate FILE                     Validate a rule definition document"]

/-- The output of a command line that ends without a command. -/
def Stop.output : Stop → Output
  | usage => ⟨2, "", usageText⟩
  | help => ⟨0, usageText, ""⟩
  | version => ⟨0, versionText, ""⟩

/-- A command line in a directory: its output, and the directory after it. -/
def run (args : List String) (d : Directory) : Output × Directory :=
  match Invocation.parse args with
  | .ok inv => inv.run d
  | .error stop => (stop.output, d)

end RuleActivation.CommandLine
