/-!
# Styling

Text set off on a terminal. A style is a colour, an attribute, or both; it is
written as escape sequences in front of the text, the colour first, and a reset
after it. On a terminal without colours text is written as it is.

## Main definitions

* `Style`: How text is set off.
* `Style.paint`: Text in a style.
-/

namespace Manuscript

namespace Text

/-- How text is set off on a terminal. -/
inductive Style where
  | bold
  | dim
  | cyan
  | boldCyan
  | boldGreen
deriving DecidableEq, Repr

namespace Style

/-- The codes that turn the style on, in the order they are written. -/
def codes : Style → List String
  | bold => ["1"]
  | dim => ["2"]
  | cyan => ["36"]
  | boldCyan => ["36", "1"]
  | boldGreen => ["32", "1"]

/-- The escape sequence of a code. -/
def escape (code : String) : String := "\x1b[" ++ code ++ "m"

/-- The text in the style, if the terminal shows colours. -/
def paint (style : Style) (colored : Bool) (text : String) : String :=
  if colored then String.join (style.codes.map escape) ++ text ++ escape "0" else text

end Style

end Text

end Manuscript
