import RuleActivation.Rule.Position
import RuleActivation.Operator
import RuleActivation.Value.Normalize
import RuleActivation.Json.Printer
import RuleActivation.Sha256

/-!
# Rule trees

The leaves of a rule tree are conditions on variables; its inner nodes ask for all or for any of
their children, of which there is at least one. A condition names a variable, and its literal can
be used with its operator.

## Main definitions

* `Condition`: conditions
* `Node`, `Children`: trees and their non-empty lists of children
* `Node.leaves`: the conditions of a tree with their positions, from left to right
* `Node.variableNames`: the variables of a tree in the order of their first occurrence
* `Node.get?`: the node at a position
* `Node.toJson`, `Node.fingerprint`: the definition of a tree and its digest
-/

namespace RuleActivation

/-! ## Conditions -/

/-- The demand that the value of a variable compares with a literal. -/
structure Condition where
  variableName : String
  operator : Operator
  literal : Value
  named : variableName ≠ ""
  usable : operator.fault? literal = none

/-- Why a node cannot be built. -/
inductive NodeFault where
  | unnamedVariable
  | noChildren (connective : String)
  | literal (fault : Operator.LiteralFault)

/-- The text of a fault. -/
def NodeFault.message : NodeFault → String
  | unnamedVariable => "condition variable name is empty"
  | noChildren connective => connective ++ " node has no children"
  | literal fault => fault.message

namespace Condition

/-- The condition on a variable, unless the variable has no name or the literal cannot be used. -/
def make (variableName : String) (operator : Operator) (literal : Value) :
    Except NodeFault Condition :=
  if named : variableName = "" then .error .unnamedVariable
  else match usable : operator.fault? literal with
    | some fault => .error (.literal fault)
    | none => .ok ⟨variableName, operator, literal, named, usable⟩

/-- Equality of conditions, up to the spelling of numbers. -/
def same (a b : Condition) : Bool :=
  a.variableName == b.variableName && a.operator == b.operator && a.literal == b.literal

instance : BEq Condition := ⟨same⟩

/-- The definition of a condition. -/
def toJson (c : Condition) : Json :=
  .object [("operator", .string c.operator.name), ("type", .string "condition"),
    ("value", c.literal.toJson), ("variable", .string c.variableName)]

end Condition

/-! ## Trees -/

/-- How the children of a node decide it. -/
inductive Connective where
  /-- All children have to hold. -/
  | and
  /-- One child has to hold. -/
  | or
  deriving DecidableEq, Repr

namespace Connective

/-- The name of a connective. -/
def name : Connective → String
  | and => "and"
  | or => "or"

/-- The truth value of a child that decides its node at once. -/
def decisive : Connective → Bool
  | and => false
  | or => true

end Connective

mutual

/-- A rule tree. -/
inductive Node where
  | leaf (condition : Condition)
  | junction (connective : Connective) (children : Children)

/-- The children of a node, at least one. -/
inductive Children where
  | one (child : Node)
  | more (child : Node) (rest : Children)

end

namespace Children

/-- The children as a list. -/
def toList : Children → List Node
  | one n => [n]
  | more n rest => n :: rest.toList

/-- The children of a list, if it has any. -/
def ofList? : List Node → Option Children
  | [] => none
  | n :: rest => some ((ofList? rest).elim (one n) (more n))

/-- The child at an index. -/
def get? : Children → Nat → Option Node
  | one n, 0 => some n
  | one _, _ + 1 => none
  | more n _, 0 => some n
  | more _ rest, i + 1 => rest.get? i

@[simp] theorem toList_ne_nil (cs : Children) : cs.toList ≠ [] := by
  cases cs <;> simp [toList]

theorem get?_eq_getElem? (cs : Children) (i : Nat) : cs.get? i = cs.toList[i]? := by
  induction cs, i using get?.induct <;> simp_all [get?, toList]

theorem toList_of_ofList? {ns : List Node} {cs : Children} (h : ofList? ns = some cs) :
    cs.toList = ns := by
  induction ns generalizing cs with
  | nil => simp [ofList?] at h
  | cons n rest ih =>
    simp only [ofList?, Option.some.injEq] at h
    subst h
    cases hr : ofList? rest with
    | none => cases rest <;> simp_all [ofList?, toList]
    | some ds => simp [toList, ih hr]

end Children

namespace Node

/-- The node that joins a list of children, unless the list is empty. -/
def join (connective : Connective) (children : List Node) : Except NodeFault Node :=
  match Children.ofList? children with
  | none => .error (.noChildren connective.name)
  | some cs => .ok (.junction connective cs)

/-! ## Parts -/

mutual

/-- The conditions of a tree at a position, with their positions, from left to right. -/
def leavesAt (p : Position) : Node → List (Position × Condition)
  | .leaf c => [(p, c)]
  | .junction _ cs => childLeaves p 0 cs

/-- The conditions of the children from an index on. -/
def childLeaves (p : Position) (index : Nat) : Children → List (Position × Condition)
  | .one n => leavesAt (p.child index) n
  | .more n rest => leavesAt (p.child index) n ++ childLeaves p (index + 1) rest

end

/-- The conditions of a tree with their positions, from left to right. -/
def leaves (n : Node) : List (Position × Condition) := n.leavesAt .root

/-- The names of a list, each at its first occurrence only. -/
def firstOccurrences (names : List String) : List String :=
  names.foldl (fun seen name => if seen.contains name then seen else seen ++ [name]) []

/-- The variables of a tree in the order of their first occurrence. -/
def variableNames (n : Node) : List String :=
  firstOccurrences (n.leaves.map fun leaf => leaf.2.variableName)

/-- The node that a list of indices leads to. -/
def follow : Node → List Nat → Option Node
  | n, [] => some n
  | .leaf _, _ :: _ => none
  | .junction _ cs, i :: rest => (cs.get? i).bind (·.follow rest)

/-- The node at a position. -/
def get? (n : Node) (p : Position) : Option Node := n.follow p.indices

mutual

/-- The number of nodes of a tree. -/
def count : Node → Nat
  | .leaf _ => 1
  | .junction _ cs => 1 + countChildren cs

/-- The number of nodes below a node. -/
def countChildren : Children → Nat
  | .one n => n.count
  | .more n rest => n.count + countChildren rest

end

mutual

/-- The number of nodes on the longest way from the root to a leaf. -/
def depth : Node → Nat
  | .leaf _ => 1
  | .junction _ cs => 1 + depthChildren cs

/-- The greatest depth of a list of children. -/
def depthChildren : Children → Nat
  | .one n => n.depth
  | .more n rest => max n.depth (depthChildren rest)

end

/-! ## Equality -/

mutual

/-- Equality of trees, up to the spelling of numbers. -/
def same : Node → Node → Bool
  | .leaf a, .leaf b => a == b
  | .junction k as, .junction l bs => k == l && sameChildren as bs
  | _, _ => false

/-- Equality of lists of children. -/
def sameChildren : Children → Children → Bool
  | .one a, .one b => a.same b
  | .more a as, .more b bs => a.same b && sameChildren as bs
  | _, _ => false

end

instance : BEq Node := ⟨same⟩

/-! ## Definitions -/

mutual

/-- The definition of a tree. -/
def toJson : Node → Json
  | .leaf c => c.toJson
  | .junction k cs =>
    .object [("children", .array (toJsonChildren cs)), ("type", .string k.name)]

/-- The definitions of a list of children. -/
def toJsonChildren : Children → List Json
  | .one n => [n.toJson]
  | .more n rest => n.toJson :: toJsonChildren rest

end

@[simp] theorem toJsonChildren_ne_nil (cs : Children) : toJsonChildren cs ≠ [] := by
  cases cs <;> simp [toJsonChildren]

/-- The digest of a tree's definition. -/
def fingerprint (n : Node) : String := Sha256.fingerprint n.toJson.compact

end Node

end RuleActivation
