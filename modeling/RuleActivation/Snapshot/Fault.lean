import RuleActivation.Binary64.Shortest
import RuleActivation.Directory
import RuleActivation.Snapshot.Basic
import RuleActivation.Text.Place

/-!
# Faults of snapshots

What can be wrong with the document of a snapshot, and how it is told.

## Main definitions

* `Found`: what has been found in a document
* `ShapeFault`: what is wrong with the shape of a document
* `SnapshotError`: why there is no snapshot, or why it cannot be verified
* `SnapshotError.reason`, `SnapshotError.message`: its text, without and with the place
-/

namespace RuleActivation

/-! ## Shapes -/

/-- What has been found in a document instead of what was wanted. -/
inductive Found where
  | null
  | bool (b : Bool)
  | integer (i : Int)
  /-- A number that is no integer, where no number was wanted. -/
  | number
  /-- A number that is no integer, where an integer was wanted. -/
  | binary (negative : Bool) (x : Binary64)
  | string (s : String)
  | sequence
  | map
  deriving DecidableEq, Repr

/-- What is wrong with the shape of a document. -/
inductive ShapeFault where
  | invalidType (found : Found) (wanted : String)
  | invalidValue (found : Found) (wanted : String)
  | invalidLength (length : Nat) (wanted : String)
  | missingField (name : String)
  | duplicateField (name : String)
  | trailingItems
  | outOfRange
  | label (fault : CaseLabel.Fault)
  deriving DecidableEq, Repr

/-- The description of what has been found. -/
def Found.description : Found → String
  | null => "null"
  | bool b => "boolean `" ++ toString b ++ "`"
  | integer i => "integer `" ++ toString i ++ "`"
  | number => "number"
  | binary negative x =>
    "floating point `" ++ (if negative then "-" else "") ++ x.shortest.text ++ "`"
  | string s => "string " ++ Text.quoted s
  | sequence => "sequence"
  | map => "map"

/-- The text of a fault. -/
def ShapeFault.message : ShapeFault → String
  | invalidType found wanted =>
    "invalid type: " ++ found.description ++ ", expected " ++ wanted
  | invalidValue found wanted =>
    "invalid value: " ++ found.description ++ ", expected " ++ wanted
  | invalidLength length wanted =>
    "invalid length " ++ toString length ++ ", expected " ++ wanted
  | missingField name => "missing field `" ++ name ++ "`"
  | duplicateField name => "duplicate field `" ++ name ++ "`"
  | trailingItems => "trailing characters"
  | outOfRange => "number out of range"
  | label fault => fault.message

/-! ## Snapshots -/

/-- Why a text is no snapshot, or why a snapshot cannot be verified. -/
inductive SnapshotError where
  | file (path : String) (fault : FileFault)
  | notJson
  | shape (fault : ShapeFault) (place : Text.Place)
  | format (found : Nat)
  | environment (rule : Int64) (label : CaseLabel) (fault : Environment.Fault)

namespace SnapshotError

/-- The text of an error, without a place. -/
def reason : SnapshotError → String
  | file path fault => "cannot access snapshot '" ++ path ++ "': " ++ fault.message
  | notJson => "malformed snapshot: not a JSON text"
  | shape fault _ => "malformed snapshot: " ++ fault.message
  | format found =>
    "unsupported snapshot format " ++ toString found ++ " (expected " ++
      toString Snapshot.formatNumber ++ ")"
  | environment rule label fault =>
    "rule " ++ toString rule.toInt ++ " case " ++ label.text ++ ": " ++ fault.message

/-- The text of an error, with the place of what is wrong with a document. -/
def message (e : SnapshotError) : String :=
  match e with
  | shape _ place => e.reason ++ " at " ++ place.text
  | _ => e.reason

end SnapshotError

end RuleActivation
