import Manuscript.Text.Blank

/-!
# Lines

The lines of a text, which line feeds end. What stands after the last line
feed is a line too, unless it is empty.

## Main definitions

* `Text.lines`: The lines of a text.
* `Text.unlines`: The text of some lines.
* `Text.trimLines`: A text without blanks at the ends of its lines.
-/

namespace Manuscript

namespace Text

/-- Collects lines from the front. `line` holds the line under way, last character first. -/
def linesFrom : List Char → List Char → List (List Char)
  | [], [] => []
  | line, [] => [line.reverse]
  | line, c :: cs =>
    if c = '\n' then line.reverse :: linesFrom [] cs else linesFrom (c :: line) cs

/-- The lines of a text without their line feeds. -/
def lines (cs : List Char) : List (List Char) := linesFrom [] cs

/-- The text of some lines, each ended by a line feed. -/
def unlines (ls : List (List Char)) : List Char := ls.flatMap (· ++ ['\n'])

/-- The text without blanks at the ends of its lines. -/
def trimLines (cs : List Char) : List Char := unlines ((lines cs).map trimEnd)

end Text

end Manuscript
