/-!
# Columns

A text in a column is filled up with blanks to the width of the column, on its left or on its
right. A text that is wider stays as it is.

## Main definitions

* `Text.alignRight`, `Text.alignLeft`: a text at the right, or the left, end of a column
-/

namespace RuleActivation.Text

/-- The blanks that a text leaves of a column. -/
def blanks (width : Nat) (s : String) : String :=
  String.ofList (List.replicate (width - s.length) ' ')

/-- A text at the right end of a column. -/
def alignRight (width : Nat) (s : String) : String := blanks width s ++ s

/-- A text at the left end of a column. -/
def alignLeft (width : Nat) (s : String) : String := s ++ blanks width s

end RuleActivation.Text
