import RuleActivation.Bounded
import RuleActivation.Dictionary
import RuleActivation.Json.Number

/-!
# JSON values

A JSON value keeps its number tokens as spelled and the members of an object as a list. In a
canonical value every object lists its members in the order of their keys, each key once; of
equal keys the last one counts.

## Main definitions

* `Json`: JSON values
* `Json.get?`, `Json.asText?`, `Json.asItems?`, …: the parts of a value
* `Json.canonical`: the canonical value with the same meaning
* `Json.typeName`: the name of a value's type
-/

namespace RuleActivation

/-- A JSON value. -/
inductive Json where
  | null
  | bool (b : Bool)
  | number (n : Json.Number)
  | string (s : String)
  | array (items : List Json)
  | object (members : List (String × Json))
  deriving Inhabited, Repr

namespace Json

/-- The name of a value's type. -/
def typeName : Json → String
  | null => "null"
  | bool _ => "boolean"
  | number _ => "number"
  | string _ => "string"
  | array _ => "array"
  | object _ => "object"

/-! ## Parts -/

/-- The member of an object with a given key. -/
def get? : Json → String → Option Json
  | object members, key => members.lookup key
  | _, _ => none

/-- The text of a string. -/
def asText? : Json → Option String
  | string s => some s
  | _ => none

/-- The truth value of a boolean. -/
def asBool? : Json → Option Bool
  | bool b => some b
  | _ => none

/-- The items of an array. -/
def asItems? : Json → Option (List Json)
  | array items => some items
  | _ => none

/-- The integer that a number token without point and exponent denotes, if it has 64 bits. -/
def asInt64? : Json → Option Int64
  | number n => n.toInt?.bind bounded?
  | _ => none

/-! ## Building values -/

/-- The JSON number of a natural number. -/
def ofNat (n : Nat) : Json := number (.ofInt n)

/-- The JSON number of an integer. -/
def ofInt (i : Int) : Json := number (.ofInt i)

/-- The JSON array of the images of a list. -/
def ofList {α : Type} (f : α → Json) (xs : List α) : Json := array (xs.map f)

/-- The JSON value of an optional value, `null` for none. -/
def ofOption {α : Type} (f : α → Json) (x : Option α) : Json := x.elim null f

/-! ## Equality -/

mutual

/-- Equality of JSON values, as they are spelled. -/
def same : Json → Json → Bool
  | null, null => true
  | bool a, bool b => a == b
  | number a, number b => a == b
  | string a, string b => a == b
  | array as, array bs => sameItems as bs
  | object as, object bs => sameMembers as bs
  | _, _ => false

/-- Equality of lists of JSON values. -/
def sameItems : List Json → List Json → Bool
  | [], [] => true
  | a :: as, b :: bs => a.same b && sameItems as bs
  | _, _ => false

/-- Equality of the members of two objects. -/
def sameMembers : List (String × Json) → List (String × Json) → Bool
  | [], [] => true
  | (k, a) :: as, (l, b) :: bs => k == l && a.same b && sameMembers as bs
  | _, _ => false

end

instance : BEq Json := ⟨same⟩

/-! ## The canonical form -/

mutual

/-- The canonical value: members sorted by key, and of equal keys the last one. -/
def canonical : Json → Json
  | null => null
  | bool b => bool b
  | number n => number n
  | string s => string s
  | array items => array (canonicalItems items)
  | object members => object (Dictionary.ofList (canonicalMembers members)).entries

/-- The canonical items of an array. -/
def canonicalItems : List Json → List Json
  | [] => []
  | v :: vs => v.canonical :: canonicalItems vs

/-- The members of an object with canonical values, in place. -/
def canonicalMembers : List (String × Json) → List (String × Json)
  | [] => []
  | (k, v) :: rest => (k, v.canonical) :: canonicalMembers rest

end

end Json

end RuleActivation
