import RuleActivation.Json.Basic

/-!
# The text of a JSON value

A value is written either compactly, without any blank, or over several lines with two blanks for
each level. Members are written in the order in which the object lists them. A string escapes the
quote, the backslash and the control characters below the blank, and nothing else.

## Main definitions

* `Json.quoted`: the characters of a string
* `Json.compact`: the text without blanks
* `Json.pretty`: the text over several lines
-/

namespace RuleActivation.Json

/-! ## Strings -/

/-- The lower-case hexadecimal digits of a character's code, four of them. -/
def hexCode (c : Char) : List Char :=
  [c.toNat / 4096 % 16, c.toNat / 256 % 16, c.toNat / 16 % 16, c.toNat % 16].map Nat.digitChar

/-- How a character is written inside a string. -/
def escaped (c : Char) : List Char :=
  if c = '"' then ['\\', '"']
  else if c = '\\' then ['\\', '\\']
  else if c = '\n' then ['\\', 'n']
  else if c = '\r' then ['\\', 'r']
  else if c = '\t' then ['\\', 't']
  else if c = '\x08' then ['\\', 'b']
  else if c = '\x0c' then ['\\', 'f']
  else if c < ' ' then '\\' :: 'u' :: hexCode c
  else [c]

/-- A string between its quotes. -/
def quoted (s : String) : List Char := '"' :: (s.toList.flatMap escaped ++ ['"'])

/-! ## Compact text -/

mutual

/-- The characters of a value without blanks. -/
def chars : Json → List Char
  | null => ['n', 'u', 'l', 'l']
  | bool true => ['t', 'r', 'u', 'e']
  | bool false => ['f', 'a', 'l', 's', 'e']
  | number n => n.chars
  | string s => quoted s
  | array [] => ['[', ']']
  | array (v :: vs) => '[' :: (v.chars ++ (itemChars vs ++ [']']))
  | object [] => ['\x7b', '\x7d']
  | object ((k, v) :: rest) =>
    '\x7b' :: (quoted k ++ (':' :: (v.chars ++ (memberChars rest ++ ['\x7d']))))

/-- The characters of the items after the first, each with its comma. -/
def itemChars : List Json → List Char
  | [] => []
  | v :: vs => ',' :: (v.chars ++ itemChars vs)

/-- The characters of the members after the first, each with its comma. -/
def memberChars : List (String × Json) → List Char
  | [] => []
  | (k, v) :: rest => ',' :: (quoted k ++ (':' :: (v.chars ++ memberChars rest)))

end

/-- The text of a value without blanks. -/
def compact (v : Json) : String := String.ofList v.chars

/-! ## Text over several lines -/

/-- The start of a new line at a given level. -/
def newline (level : Nat) : List Char := '\n' :: List.replicate (2 * level) ' '

mutual

/-- The characters of a value whose lines start at `level`. -/
def prettyChars (level : Nat) : Json → List Char
  | null => ['n', 'u', 'l', 'l']
  | bool true => ['t', 'r', 'u', 'e']
  | bool false => ['f', 'a', 'l', 's', 'e']
  | number n => n.chars
  | string s => quoted s
  | array [] => ['[', ']']
  | array (v :: vs) =>
    '[' :: (newline (level + 1) ++ (v.prettyChars (level + 1) ++
      (prettyItems (level + 1) vs ++ (newline level ++ [']']))))
  | object [] => ['\x7b', '\x7d']
  | object ((k, v) :: rest) =>
    '\x7b' :: (newline (level + 1) ++ (quoted k ++ (':' :: ' ' :: (v.prettyChars (level + 1) ++
      (prettyMembers (level + 1) rest ++ (newline level ++ ['\x7d']))))))

/-- The items after the first, each with its comma and on a line of its own. -/
def prettyItems (level : Nat) : List Json → List Char
  | [] => []
  | v :: vs => ',' :: (newline level ++ (v.prettyChars level ++ prettyItems level vs))

/-- The members after the first, each with its comma and on a line of its own. -/
def prettyMembers (level : Nat) : List (String × Json) → List Char
  | [] => []
  | (k, v) :: rest =>
    ',' :: (newline level ++ (quoted k ++ (':' :: ' ' :: (v.prettyChars level ++
      prettyMembers level rest))))

end

/-- The text of a value over several lines. -/
def pretty (v : Json) : String := String.ofList (v.prettyChars 0)

end RuleActivation.Json
