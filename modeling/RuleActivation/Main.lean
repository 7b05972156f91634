import RuleActivation.CommandLine.Run

/-!
# The program

The command line over the files of the machine. All decisions are those of
`CommandLine.Invocation.reply`; here its files are read, its file is written, and its output is
printed.
-/

namespace RuleActivation

/-- The fault that an error of the machine stands for. The number of the error tells a folder from a
file. -/
def faultOf : IO.Error → FileFault
  | .noFileOrDirectory .. => .notFound
  | .inappropriateType _ 21 _ => .isFolder
  | .inappropriateType .. => .notFolder
  | .invalidArgument _ 36 _ => .nameTooLong
  | .permissionDenied .. => .other "Permission denied (os error 13)"
  | e => .other (toString e)

/-- The text of a file of the machine. -/
def readText (path : String) : IO (Except FileFault String) := do
  try
    let bytes ← IO.FS.readBinFile path
    return (String.fromUTF8? bytes).elim (.error .notText) .ok
  catch e => return .error (faultOf e)

/-- Reads files before a command decides. -/
def readAll (paths : List String) : IO FileReader := do
  let texts ← paths.mapM fun path => return (path, ← readText path)
  return fun path => (texts.lookup path).getD (.error .notFound)

/-- Does what a reply says, and returns what is to be printed. -/
def perform : CommandLine.Reply → IO CommandLine.Output
  | .done output => return output
  | .write path text written failed => do
    try
      IO.FS.writeFile path text
      return written
    catch e => return failed (faultOf e)

/-- The output of a command line. -/
def outputOf (args : List String) : IO CommandLine.Output :=
  match CommandLine.Invocation.parse args with
  | .error stop => return stop.output
  | .ok inv => do perform (inv.reply (← readAll inv.inputs))

end RuleActivation

/-- Runs the program on its arguments. -/
def main (args : List String) : IO UInt32 := do
  let output ← RuleActivation.outputOf args
  IO.print output.stdout
  IO.eprint output.stderr
  return output.exit.toUInt32
