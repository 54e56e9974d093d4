import Manuscript.Yaml.Cursor

/-!
# Block Scalars

Scalars that are written as indented lines under a header. The header says
whether the lines are kept as they are (`|`) or folded (`>`), may fix the
indentation by a digit, and may say what happens to the line breaks at the
end: without a sign one is kept, with `-` none, with `+` all.

Without a digit the first line that is not empty fixes the indentation, which
is at least that of the longest empty line before it and more than that of the
collection around the scalar. The scalar ends at the first line that does not
start in that very column.

Folding joins two lines by a space if neither starts with a blank, and drops
one line break where there are several.

## Main definitions

* `Yaml.BlockHeader`: What a header says.
* `Yaml.readBlock?`: Reads a block scalar.
-/

namespace Manuscript

namespace Yaml

/-- What happens to the line breaks at the end of a block scalar. -/
inductive Chomping where
  | strip
  | clip
  | keep
deriving DecidableEq, Repr

/-- What the header of a block scalar says. -/
structure BlockHeader where
  /-- Whether lines are joined. -/
  folds : Bool
  chomping : Chomping
  /-- How much deeper the lines are indented, if that is said. -/
  increment? : Option Nat
deriving DecidableEq, Repr

/-- The sign of a header, if one comes next. -/
def readChomping (c : Cursor) : Option Chomping × Cursor :=
  match c.rest with
  | '+' :: _ => (some .keep, c.advance 1)
  | '-' :: _ => (some .strip, c.advance 1)
  | _ => (none, c)

/-- The digit of a header, if one comes next. Zero is refused. -/
def readIncrement? (c : Cursor) : Option (Option Nat × Cursor) :=
  match c.rest with
  | d :: _ =>
    if d = '0' then none
    else if d.isDigit then some (some (d.toNat - 48), c.advance 1)
    else some (none, c)
  | [] => some (none, c)

/-- Reads a header, whose indicator says whether lines are joined, and the line it stands on. The
    sign and the digit may come in either order. -/
def readHeader? (folds : Bool) (c : Cursor) : Option (BlockHeader × Cursor) := do
  let (sign?, c) := readChomping (c.advance 1)
  let (increment?, c) ← readIncrement? c
  let (sign?, c) := if sign?.isSome then (sign?, c) else readChomping c
  let c ← c.endLine?
  return (⟨folds, sign?.getD .clip, increment?⟩, c)

/-- The lines of a block scalar that were read so far. Text is held last character first. -/
structure BlockLines where
  folds : Bool
  /-- The column of the lines; zero until it is known. -/
  indent : Nat
  /-- The greatest column that was met while the indentation is not known. -/
  reach : Nat
  out : List Char
  /-- The line break that ends the last line with text. -/
  ending : List Char
  /-- The line breaks of empty lines after it. -/
  empties : List Char
  /-- Whether the last line with text starts with a blank. -/
  leadingBlank : Bool

namespace BlockLines

/-- Fixes the indentation, if it is not known, at a place that is not indentation any more. -/
def settle (b : BlockLines) (least column : Nat) : BlockLines :=
  if b.indent = 0 then { b with indent := max (max b.reach column) (max least 1) } else b

/-- Notes the end of an empty line. -/
def addEmpty (b : BlockLines) (c : Char) (column : Nat) : BlockLines :=
  { b with empties := lineBreak c :: b.empties, reach := max b.reach column }

/-- Starts a line with text, after what the line breaks before it stand for. -/
def startLine (b : BlockLines) (c : Char) : BlockLines :=
  let joins := b.folds && b.ending = ['\n'] && !b.leadingBlank && !isGap c
  let between := if joins then (if b.empties.isEmpty then [' '] else []) else b.ending
  { b with
    out := c :: (b.empties ++ between ++ b.out)
    ending := []
    empties := []
    leadingBlank := isGap c }

/-- The text of the scalar, with the line breaks at its end that are kept. -/
def text (b : BlockLines) : Chomping → String
  | .strip => String.ofList b.out.reverse
  | .clip => String.ofList (b.ending ++ b.out).reverse
  | .keep => String.ofList (b.empties ++ b.ending ++ b.out).reverse

end BlockLines

mutual

/-- Reads from the start of a line. A tab where indentation is still to come is refused. The
    indentation, if it is not known, is at least `least`. -/
def readIndentation (least : Nat) (b : BlockLines) (m : Mark) :
    List Char → Option (BlockLines × Cursor)
  | '\r' :: '\n' :: cs => readIndentation least (b.addEmpty '\n' m.column) (m.newline 2) cs
  | c :: cs =>
    if isBreak c then readIndentation least (b.addEmpty c m.column) (m.newline c.utf8Size) cs
    else if (b.indent = 0 || m.column < b.indent) && c = ' ' then
      readIndentation least b (m.step c) cs
    else if (b.indent = 0 || m.column < b.indent) && c = '\t' then none
    else
      let b := b.settle least m.column
      if m.column = b.indent then readLine least (b.startLine c) (m.step c) cs
      else some (b, ⟨m, c :: cs⟩)
  | [] => some (b, ⟨m, []⟩)

/-- Reads to the end of a line with text. -/
def readLine (least : Nat) (b : BlockLines) (m : Mark) : List Char → Option (BlockLines × Cursor)
  | '\r' :: '\n' :: cs => readIndentation least { b with ending := ['\n'] } (m.newline 2) cs
  | c :: cs =>
    if isBreak c then
      readIndentation least { b with ending := [lineBreak c] } (m.newline c.utf8Size) cs
    else readLine least { b with out := c :: b.out } (m.step c) cs
  | [] => some (b, ⟨m, []⟩)

end

/-- Reads a block scalar from its indicator on. The collection around it is indented by `outer?`,
    if there is one. -/
def readBlock? (folds : Bool) (outer? : Option Nat) (c : Cursor) : Option (String × Cursor) := do
  let (header, c) ← readHeader? folds c
  let indent := match header.increment? with
    | some n => outer?.getD 0 + n
    | none => 0
  let least := match outer? with
    | some n => n + 1
    | none => 0
  let (lines, c) ← readIndentation least ⟨folds, indent, 0, [], [], [], false⟩ c.mark c.rest
  return (lines.text header.chomping, c)

end Yaml

end Manuscript
