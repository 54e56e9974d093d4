import Manuscript.Text.Extending
import Manuscript.Text.Hidden

/-!
# Text on Display

Text as messages show it: in double quotes, with an escape for every character
that would not show by itself. Quotes, backslashes and four control characters
have a letter, every other hidden or extending character is written as its
code in braces.

## Main definitions

* `Text.display`: A text as messages show it.
-/

namespace Manuscript

namespace Text

/-- How a character shows in a message. -/
def displayChar (c : Char) : List Char :=
  if c = '"' then ['\\', '"']
  else if c = '\\' then ['\\', '\\']
  else if c = '\n' then ['\\', 'n']
  else if c = '\r' then ['\\', 'r']
  else if c = '\t' then ['\\', 't']
  else if c.toNat = 0 then ['\\', '0']
  else if isHidden c || isExtending c then
    ['\\', 'u', '{'] ++ Nat.toDigits 16 c.toNat ++ ['}']
  else [c]

/-- A text as messages show it. -/
def display (s : String) : String :=
  String.ofList ('"' :: s.toList.flatMap displayChar ++ ['"'])

end Text

end Manuscript
