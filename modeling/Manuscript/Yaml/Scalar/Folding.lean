import Manuscript.Yaml.Cursor

/-!
# Folding

The gaps in flow scalars. A scalar that is plain or in quotes may run over
several lines. Blanks between two words of a line are kept. Where a line ends,
the blanks around the line break are dropped, a single line break becomes a
space, and of several line breaks the first is dropped. A separator that ends
a line is kept, however.

In double quotes a line break may be escaped. It then stands for nothing, but
what follows it is a gap across lines all the same.

## Main definitions

* `Yaml.Gap`: The blanks and line breaks between two words.
* `Yaml.Gap.folded`: What a gap stands for.
-/

namespace Manuscript

namespace Yaml

/-- The gap between two words of a scalar. Everything is held last character first. -/
inductive Gap where
  /-- Blanks within a line. -/
  | blanks (text : List Char)
  /-- Line breaks, the first of which may be escaped. -/
  | lines (first? : Option Char) (more : List Char)
deriving DecidableEq, Repr

namespace Gap

/-- No gap. -/
def empty : Gap := blanks []

/-- Whether the gap holds a line break. -/
def isBroken : Gap → Bool
  | blanks _ => false
  | lines _ _ => true

/-- The gap with another blank. Blanks around line breaks do not count. -/
def addBlank (c : Char) : Gap → Gap
  | blanks text => blanks (c :: text)
  | lines first? more => lines first? more

/-- The gap with another line break, which drops the blanks before it. -/
def addBreak (c : Char) : Gap → Gap
  | blanks _ => lines (some (lineBreak c)) []
  | lines first? more => lines first? (lineBreak c :: more)

/-- What the gap stands for, last character first. -/
def folded : Gap → List Char
  | blanks text => text
  | lines none more => more
  | lines (some first) more =>
    if first ≠ '\n' then more ++ [first]
    else if more.isEmpty then [' '] else more

end Gap

end Yaml

end Manuscript
