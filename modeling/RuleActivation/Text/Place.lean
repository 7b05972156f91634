/-!
# Places in a text

A place is given by the number of its line and by the bytes that stand before it in this line.

## Main definitions

* `Text.Place`: places in a text
* `Text.Place.next`: the place after a character
* `Text.Place.text`: how a place is named
-/

namespace RuleActivation.Text

/-- A place in a text: the number of its line, and the bytes before it in this line. -/
structure Place where
  line : Nat
  column : Nat
  deriving DecidableEq, Repr, Inhabited

namespace Place

/-- The beginning of a text. -/
def start : Place := ⟨1, 0⟩

/-- The place after a character. -/
def next (p : Place) (c : Char) : Place :=
  if c = '\n' then ⟨p.line + 1, 0⟩ else ⟨p.line, p.column + c.utf8Size⟩

/-- The place some bytes further on in the same line. -/
def advance (p : Place) (count : Nat) : Place := ⟨p.line, p.column + count⟩

/-- The place some bytes back in the same line. -/
def back (p : Place) (count : Nat) : Place := ⟨p.line, p.column - count⟩

/-- How a place is named. -/
def text (p : Place) : String :=
  "line " ++ toString p.line ++ " column " ++ toString p.column

end Place

end RuleActivation.Text
