import Manuscript.Yaml.Character

/-!
# Cursors

A cursor is a place in YAML text: the characters that are still to be read,
with the line and column at which they start and how many octets of the
encoded text came before. The column counts characters and decides how text is
nested, and the octets decide how far back a key may lie from its colon.

Reading moves by characters within a line and by whole line breaks between
lines. A cursor is never moved across a line break by the functions for
characters.

## Main definitions

* `Yaml.Mark`: A place without the text.
* `Yaml.Cursor`: A place and the text from there.
* `Yaml.Cursor.span`: Reading characters of a class.
* `Yaml.toToken`: Going to the start of the next token.
-/

namespace Manuscript

namespace Yaml

/-- A place in a text. -/
structure Mark where
  /-- How many octets come before. -/
  index : Nat
  line : Nat
  column : Nat
deriving DecidableEq, Repr

namespace Mark

/-- The start of a text. -/
def start : Mark := ⟨0, 0, 0⟩

/-- After one more character of the line. -/
def step (m : Mark) (c : Char) : Mark := ⟨m.index + c.utf8Size, m.line, m.column + 1⟩

/-- After more characters of the line. -/
def past (m : Mark) (cs : List Char) : Mark := cs.foldl step m

/-- After so many more characters of the line, of one octet each. -/
def steps (m : Mark) (n : Nat) : Mark := ⟨m.index + n, m.line, m.column + n⟩

/-- After a line break of so many octets. -/
def newline (m : Mark) (octets : Nat) : Mark := ⟨m.index + octets, m.line + 1, 0⟩

end Mark

/-- A place in a text and what is to be read from there. -/
structure Cursor where
  mark : Mark
  rest : List Char

namespace Cursor

/-- The column of the next character. -/
def column (c : Cursor) : Nat := c.mark.column

/-- The cursor after so many more characters of the line, of one octet each. -/
def advance (c : Cursor) (n : Nat) : Cursor := ⟨c.mark.steps n, c.rest.drop n⟩

/-- Reads the characters of a class. -/
def span (c : Cursor) (p : Char → Bool) : List Char × Cursor :=
  let (found, rest) := c.rest.span p
  (found, ⟨c.mark.past found, rest⟩)

/-- The cursor after the blanks of the line. -/
def skipGap (c : Cursor) : Cursor := (c.span isGap).2

/-- The cursor at the end of the line. -/
def skipLine (c : Cursor) : Cursor := (c.span fun c => !isBreak c).2

/-- The cursor after a line break, if one comes next. -/
def skipBreak (c : Cursor) : Cursor :=
  match c.rest with
  | '\r' :: '\n' :: rest => ⟨c.mark.newline 2, rest⟩
  | b :: rest => if isBreak b then ⟨c.mark.newline b.utf8Size, rest⟩ else c
  | [] => c

/-- After what has to be the end of its line: skips blanks, a comment and the line break. -/
def endLine? (c : Cursor) : Option Cursor :=
  let c := c.skipGap
  let c := if c.rest.head? = some '#' then c.skipLine else c
  match c.rest with
  | [] => some c
  | b :: _ => if isBreak b then some c.skipBreak else none

end Cursor

/-- Goes to the start of the next token, past blanks, line breaks and comments. A tab counts as a
    blank only where no key can start, or in a flow collection. The flag says whether a key can
    start, which after a line break outside of flow collections it can. -/
def toToken (inFlow keyAllowed inComment : Bool) (m : Mark) : List Char → Bool × Cursor
  | '\r' :: '\n' :: cs => toToken inFlow (keyAllowed || !inFlow) false (m.newline 2) cs
  | c :: cs =>
    if isBreak c then toToken inFlow (keyAllowed || !inFlow) false (m.newline c.utf8Size) cs
    else if inComment then toToken inFlow keyAllowed true (m.step c) cs
    else if c = ' ' || (c = '\t' && (inFlow || !keyAllowed)) then
      toToken inFlow keyAllowed false (m.step c) cs
    else if c = byteOrderMark && m.column = 0 then toToken inFlow keyAllowed false (m.step c) cs
    else if c = '#' then toToken inFlow keyAllowed true (m.step c) cs
    else (keyAllowed, ⟨m, c :: cs⟩)
  | [] => (keyAllowed, ⟨m, []⟩)

end Yaml

end Manuscript
