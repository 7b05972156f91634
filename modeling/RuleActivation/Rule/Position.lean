import RuleActivation.Text.Integer

/-!
# Positions

The position of a node in a tree: the indices of the children that lead to it from the root.

## Main definitions

* `Position`: positions
* `Position.text`, `Position.parse?`: the text `root.0.2` of a position, and back
-/

namespace RuleActivation

/-- The indices of the children that lead from the root to a node. -/
structure Position where
  indices : List Nat
  deriving DecidableEq, Repr, Inhabited

namespace Position

/-- The position of the root. -/
def root : Position := ⟨[]⟩

/-- The position of a child. -/
def child (p : Position) (index : Nat) : Position := ⟨p.indices ++ [index]⟩

/-- The characters of a position's indices, each after a point. -/
def indexChars (indices : List Nat) : List Char :=
  indices.flatMap fun i => '.' :: Nat.toDigits 10 i

/-- The text of a position. -/
def text (p : Position) : String := String.ofList ("root".toList ++ indexChars p.indices)

/-- The position that a text spells. Its indices have 64 bits; they may have a plus sign and
leading zeros. -/
def parse? (s : String) : Option Position :=
  match s.toList.splitOn '.' with
  | first :: rest =>
    if first = "root".toList then (rest.mapM Text.index?).map mk else none
  | [] => none

end Position

end RuleActivation
