import RuleActivation.Text.Hidden

/-!
# Quoted texts

A text is shown between double quotes. The quote, the backslash, the usual control characters and
the hidden characters are replaced by escape sequences; an apostrophe stands for itself.

## Main definitions

* `Text.escaped`: how one character is shown
* `Text.quoted`: how a text is shown
-/

namespace RuleActivation.Text

/-- How a character is shown inside quotes. A code point has as many digits as it needs. -/
def escaped (c : Char) : List Char :=
  if c = '"' then ['\\', '"']
  else if c = '\\' then ['\\', '\\']
  else if c = '\n' then ['\\', 'n']
  else if c = '\r' then ['\\', 'r']
  else if c = '\t' then ['\\', 't']
  else if c = '\x00' then ['\\', '0']
  else if isHidden c then '\\' :: 'u' :: '\x7b' :: (Nat.toDigits 16 c.toNat ++ ['\x7d'])
  else [c]

/-- A text as it is shown. -/
def quoted (s : String) : String := String.ofList ('"' :: (s.toList.flatMap escaped ++ ['"']))

end RuleActivation.Text
