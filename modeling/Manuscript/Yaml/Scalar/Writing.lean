import Manuscript.Yaml.Character
import Manuscript.Yaml.Scalar.Meaning
import Manuscript.Yaml.Token

/-!
# Writing Scalars

How a text is written as a scalar. A text with a line feed is written as
literal lines. A text that would be taken for something else without quotes is
written in single quotes. Any other text is written without quotes if it can
be, or else in single quotes, and what no other style can hold is written in
double quotes.

A scalar is written at a column. The lines of a literal scalar start there,
and so does the rest of a text in single quotes after a line separator.

## Main definitions

* `Yaml.styleOf`: The style of a text.
* `Yaml.writeScalar`: A text in its style.
-/

namespace Manuscript

namespace Yaml

/-- Whether a character can be written as it is. -/
def isWritable (c : Char) : Bool :=
  c = '\n' || (0x20 ≤ c.toNat && c.toNat ≤ 0x7e) ||
    (0xa0 ≤ c.toNat && c.toNat ≤ 0xfffd && c ≠ byteOrderMark) || 0x10000 ≤ c.toNat

/-- Whether two characters with the given properties stand next to each other. -/
def hasPair (p q : Char → Bool) : List Char → Bool
  | c :: d :: cs => (p c && q d) || hasPair p q (d :: cs)
  | _ => false

/-- Whether a space stands directly before a line break. -/
def hasSpaceBreak (cs : List Char) : Bool := hasPair (· = ' ') isBreak cs

/-- Whether a space stands directly after a line break. -/
def hasBreakSpace (cs : List Char) : Bool := hasPair isBreak (· = ' ') cs

/-- Whether the text starts with an indicator, so that it would not be a plain scalar. -/
def startsWithIndicator : List Char → Bool
  | '-' :: '-' :: '-' :: _ => true
  | '.' :: '.' :: '.' :: _ => true
  | c :: cs =>
    if c = '-' || c = '?' || c = ':' then endsWord cs
    else "#,[]\x7b\x7d&*!|>'\"%@`".toList.contains c
  | [] => false

/-- Whether a plain scalar would end within the text, at a colon or a comment. -/
def hasIndicator : List Char → Bool
  | c :: cs =>
    (c = ':' && endsWord cs) || ((isGap c || isBreak c) && cs.head? = some '#') || hasIndicator cs
  | [] => false

/-- Whether the text can be a plain scalar. -/
def allowsPlain (cs : List Char) : Bool :=
  cs.head? ≠ some ' ' && cs.getLast? ≠ some ' ' && cs.all (fun c => isWritable c && !isBreak c) &&
    !startsWithIndicator cs && !hasIndicator cs.tail

/-- Whether the text can be in single quotes. -/
def allowsSingle (cs : List Char) : Bool :=
  cs.all isWritable && !hasSpaceBreak cs && !hasBreakSpace cs

/-- Whether the text can be literal lines. -/
def allowsLiteral (cs : List Char) : Bool :=
  cs.all isWritable && !hasSpaceBreak cs && cs.getLast? ≠ some ' '

/-- Whether the text would be taken for something else than text, or for a numeral. -/
def needsQuotes (s : String) : Bool := meaning s ≠ .text || isPaddedNumeral s.toList

/-- The style in which a text is written. -/
def styleOf (s : String) : ScalarStyle :=
  let cs := s.toList
  if cs.contains '\n' then if allowsLiteral cs then .literal else .doubleQuoted
  else if !needsQuotes s && allowsPlain cs then .plain
  else if allowsSingle cs then .singleQuoted
  else .doubleQuoted

/-- Blanks up to a column, at the start of a line. -/
def indentation (column : Nat) : List Char := List.replicate column ' '

/-- The inside of single quotes. After a line separator the text goes on at the column. -/
def writeSingle (column : Nat) : Bool → List Char → List Char
  | afterBreak, c :: cs =>
    if isBreak c then c :: writeSingle column true cs
    else
      (if afterBreak then indentation column else []) ++
        (if c = '\'' then ['\'', '\''] else [c]) ++ writeSingle column false cs
  | afterBreak, [] => if afterBreak then indentation column else []

/-- An upper-case hexadecimal digit. -/
def upperHexDigit (n : Nat) : Char :=
  if n < 10 then Char.ofNat (48 + n) else Char.ofNat (55 + n)

/-- A code in hexadecimal digits, with as many digits as are asked for. -/
def hexCode : Nat → Nat → List Char
  | 0, _ => []
  | digits + 1, n => hexCode digits (n / 16) ++ [upperHexDigit (n % 16)]

/-- How a character is written in double quotes. -/
def writeEscaped (c : Char) : List Char :=
  if c = '"' then ['\\', '"']
  else if c = '\\' then ['\\', '\\']
  else if isWritable c && !isBreak c then [c]
  else if c = '\x00' then ['\\', '0']
  else if c = '\x07' then ['\\', 'a']
  else if c = '\x08' then ['\\', 'b']
  else if c = '\t' then ['\\', 't']
  else if c = '\n' then ['\\', 'n']
  else if c = '\x0b' then ['\\', 'v']
  else if c = '\x0c' then ['\\', 'f']
  else if c = '\r' then ['\\', 'r']
  else if c = '\x1b' then ['\\', 'e']
  else if c = '\u0085' then ['\\', 'N']
  else if c = '\u2028' then ['\\', 'L']
  else if c = '\u2029' then ['\\', 'P']
  else if c.toNat < 0x100 then ['\\', 'x'] ++ hexCode 2 c.toNat
  else if c.toNat < 0x10000 then ['\\', 'u'] ++ hexCode 4 c.toNat
  else ['\\', 'U'] ++ hexCode 8 c.toNat

/-- The lines of a literal scalar. The flag says whether a line starts here. -/
def writeLines (column : Nat) : Bool → List Char → List Char
  | atStart, c :: cs =>
    if isBreak c then c :: writeLines column true cs
    else (if atStart then indentation column else []) ++ c :: writeLines column false cs
  | _, [] => []

/-- The header of a literal scalar. A text that starts with a space or a line break needs the digit
    for the indentation, and the sign says how many line breaks the text ends with. -/
def literalHeader (cs : List Char) : List Char :=
  let digit := if cs.head?.any (fun c => c = ' ' || isBreak c) then ['2'] else []
  let sign := match cs.reverse with
    | [] => ['-']
    | [c] => if isBreak c then ['+'] else ['-']
    | c :: d :: _ => if !isBreak c then ['-'] else if isBreak d then ['+'] else []
  '|' :: digit ++ sign

/-- A text in a style. -/
def writeStyled (column : Nat) (cs : List Char) : ScalarStyle → List Char
  | .plain => cs
  | .singleQuoted => '\'' :: writeSingle column false cs ++ ['\'']
  | .literal => literalHeader cs ++ '\n' :: writeLines column true cs
  | _ => '"' :: cs.flatMap writeEscaped ++ ['"']

/-- A text in the style it is written in. -/
def writeScalar (column : Nat) (s : String) : List Char :=
  writeStyled column s.toList (styleOf s)

end Yaml

end Manuscript
