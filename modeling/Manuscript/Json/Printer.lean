import Manuscript.Data

/-!
# Printing JSON

Plain data as JSON text with an indentation of two spaces. Every item and
every field stands on a line of its own, and a list or record that holds
nothing is written on one line.

In a text, a quote, a backslash and the control characters below the space are
escaped, five of the latter by a letter and the others by their code in
lower-case digits. Every other character is written as it is.

## Main definitions

* `Json.escape`: How a character is written inside quotes.
* `Json.quote`: A text in quotes.
* `Json.print`: Plain data as JSON text.
-/

namespace Manuscript

namespace Json

/-- A lower-case hexadecimal digit. -/
def hexDigit (n : Nat) : Char :=
  if n < 10 then Char.ofNat (48 + n) else Char.ofNat (87 + n)

/-- How a character is written inside quotes. -/
def escape (c : Char) : List Char :=
  if c = '"' then ['\\', '"']
  else if c = '\\' then ['\\', '\\']
  else if c = '\n' then ['\\', 'n']
  else if c = '\r' then ['\\', 'r']
  else if c = '\t' then ['\\', 't']
  else if c = '\x08' then ['\\', 'b']
  else if c = '\x0c' then ['\\', 'f']
  else if c.toNat < 32 then
    ['\\', 'u', '0', '0', hexDigit (c.toNat / 16), hexDigit (c.toNat % 16)]
  else [c]

/-- A text in quotes. -/
def quote (s : String) : List Char := '"' :: s.toList.flatMap escape ++ ['"']

/-- A new line that is indented `depth` times. -/
def newline (depth : Nat) : List Char := '\n' :: List.replicate (2 * depth) ' '

mutual

/-- Plain data as JSON text that stands at indentation `depth`. -/
def print (depth : Nat) : Data → List Char
  | .null => "null".toList
  | .flag true => "true".toList
  | .flag false => "false".toList
  | .number numeral => numeral.toList
  | .text s => quote s
  | .list [] => "[]".toList
  | .list (item :: rest) =>
    '[' :: newline (depth + 1) ++ print (depth + 1) item ++ printItems (depth + 1) rest
      ++ newline depth ++ [']']
  | .record [] => ['{', '}']
  | .record (field :: rest) =>
    '{' :: newline (depth + 1) ++ printField (depth + 1) field ++ printFields (depth + 1) rest
      ++ newline depth ++ ['}']

/-- Further items of a list, each after a comma on a new line. -/
def printItems (depth : Nat) : List Data → List Char
  | [] => []
  | item :: rest => ',' :: newline depth ++ print depth item ++ printItems depth rest

/-- A field of a record. -/
def printField (depth : Nat) : String × Data → List Char
  | (name, value) => quote name ++ ':' :: ' ' :: print depth value

/-- Further fields of a record, each after a comma on a new line. -/
def printFields (depth : Nat) : List (String × Data) → List Char
  | [] => []
  | field :: rest => ',' :: newline depth ++ printField depth field ++ printFields depth rest

end

end Json

end Manuscript
