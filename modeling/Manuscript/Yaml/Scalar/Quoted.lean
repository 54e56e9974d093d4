import Manuscript.Yaml.Scalar.Folding
import Manuscript.Text.Numeral

/-!
# Quoted Scalars

Scalars in single or double quotes. In single quotes a quote is written twice,
and nothing else is escaped. In double quotes a backslash starts an escape: a
letter for a character, a code in hexadecimal digits, or a line break that is
to be dropped. Codes of surrogates and codes past the last character are
refused, as are unknown letters.

Both kinds may run over several lines, and no line of theirs may mark a
document.

## Main definitions

* `Yaml.readSingle`: Reads a scalar in single quotes.
* `Yaml.readDouble`: Reads a scalar in double quotes.
-/

namespace Manuscript

namespace Yaml

/-- Reads on in a scalar in single quotes, up to the closing quote. What is read is held last
    character first. -/
def readSingle (out : List Char) (gap : Gap) (m : Mark) : List Char → Option (String × Cursor)
  | '\r' :: '\n' :: cs => readSingle out (gap.addBreak '\n') (m.newline 2) cs
  | '\'' :: '\'' :: cs => readSingle ('\'' :: (gap.folded ++ out)) .empty (m.steps 2) cs
  | '\'' :: cs => some (String.ofList (gap.folded ++ out).reverse, ⟨m.steps 1, cs⟩)
  | c :: cs =>
    if isBreak c then readSingle out (gap.addBreak c) (m.newline c.utf8Size) cs
    else if isGap c then readSingle out (gap.addBlank c) (m.step c) cs
    else if m.column = 0 && marksDocument (c :: cs) then none
    else readSingle (c :: (gap.folded ++ out)) .empty (m.step c) cs
  | [] => none

/-- The character that a letter stands for after a backslash. -/
def escapedChar? : Char → Option Char
  | '0' => some '\x00'
  | 'a' => some '\x07'
  | 'b' => some '\x08'
  | 't' => some '\t'
  | '\t' => some '\t'
  | 'n' => some '\n'
  | 'v' => some '\x0b'
  | 'f' => some '\x0c'
  | 'r' => some '\r'
  | 'e' => some '\x1b'
  | ' ' => some ' '
  | '"' => some '"'
  | '/' => some '/'
  | '\\' => some '\\'
  | 'N' => some '\u0085'
  | '_' => some '\u00a0'
  | 'L' => some '\u2028'
  | 'P' => some '\u2029'
  | _ => none

/-- The character of a code in hexadecimal digits. -/
def charOfCode? (digits : List Char) : Option Char :=
  match Numeral.read? 16 digits with
  | some n => if n.isValidChar then some (Char.ofNat n) else none
  | none => none

/-- Reads on in a scalar in double quotes, up to the closing quote. What is read is held last
    character first. -/
def readDouble (out : List Char) (gap : Gap) (m : Mark) : List Char → Option (String × Cursor)
  | '\r' :: '\n' :: cs => readDouble out (gap.addBreak '\n') (m.newline 2) cs
  | '"' :: cs => some (String.ofList (gap.folded ++ out).reverse, ⟨m.steps 1, cs⟩)
  | '\\' :: '\r' :: '\n' :: cs =>
    readDouble (gap.folded ++ out) (.lines none []) (m.newline 3) cs
  | '\\' :: 'x' :: a :: b :: cs =>
    match charOfCode? [a, b] with
    | some c => readDouble (c :: (gap.folded ++ out)) .empty (m.steps 4) cs
    | none => none
  | '\\' :: 'u' :: a :: b :: c :: d :: cs =>
    match charOfCode? [a, b, c, d] with
    | some c => readDouble (c :: (gap.folded ++ out)) .empty (m.steps 6) cs
    | none => none
  | '\\' :: 'U' :: a :: b :: c :: d :: e :: f :: g :: h :: cs =>
    match charOfCode? [a, b, c, d, e, f, g, h] with
    | some c => readDouble (c :: (gap.folded ++ out)) .empty (m.steps 10) cs
    | none => none
  | '\\' :: c :: cs =>
    if isBreak c then
      readDouble (gap.folded ++ out) (.lines none []) (m.newline (1 + c.utf8Size)) cs
    else
      match escapedChar? c with
      | some e => readDouble (e :: (gap.folded ++ out)) .empty (m.steps 2) cs
      | none => none
  | c :: cs =>
    if isBreak c then readDouble out (gap.addBreak c) (m.newline c.utf8Size) cs
    else if isGap c then readDouble out (gap.addBlank c) (m.step c) cs
    else if m.column = 0 && marksDocument (c :: cs) then none
    else readDouble (c :: (gap.folded ++ out)) .empty (m.step c) cs
  | [] => none

end Yaml

end Manuscript
