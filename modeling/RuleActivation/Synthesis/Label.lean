import RuleActivation.Rule.Position

/-!
# Case labels

A case is labelled by what it exercises: the baseline in which every leaf is satisfied, or one
leaf whose variable is negated or removed.

## Main definitions

* `CaseLabel`: labels
* `CaseLabel.text`, `CaseLabel.parse`: the text of a label, and back
-/

namespace RuleActivation

/-- What a case exercises. -/
inductive CaseLabel where
  | positiveAll
  | negativeLeaf (position : Position)
  | nullLeaf (position : Position)
  deriving DecidableEq, Repr

namespace CaseLabel

/-- The text of a label. -/
def text : CaseLabel → String
  | positiveAll => "positive_all"
  | negativeLeaf p => "negative_leaf:" ++ p.text
  | nullLeaf p => "null_leaf:" ++ p.text

/-- Why a text is no label. -/
inductive Fault where
  | label (text : String)
  | position (text : String)
  deriving DecidableEq, Repr

/-- The text of a fault. -/
def Fault.message : Fault → String
  | label text => "invalid case label '" ++ text ++ "'"
  | position text => "invalid node path in '" ++ text ++ "'"

/-- The characters before the first colon, and those after it. -/
def splitColon : List Char → Option (List Char × List Char)
  | [] => none
  | c :: cs =>
    if c = ':' then some ([], cs)
    else (splitColon cs).map fun (before, after) => (c :: before, after)

/-- The label that a text spells. A position that cannot be read is reported before an unknown
kind of label. -/
def parse (s : String) : Except Fault CaseLabel :=
  if s = "positive_all" then .ok positiveAll
  else match splitColon s.toList with
    | none => .error (.label s)
    | some (kind, place) =>
      match Position.parse? (String.ofList place) with
      | none => .error (.position s)
      | some p =>
        if kind = "negative_leaf".toList then .ok (negativeLeaf p)
        else if kind = "null_leaf".toList then .ok (nullLeaf p)
        else .error (.label s)

end CaseLabel

end RuleActivation
