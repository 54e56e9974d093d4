import Manuscript.Text.Width

/-!
# Control Sequences

Texts may hold sequences that tell a terminal what to do and are not shown. A
sequence starts with an escape character. If a bracket follows, the sequence
goes on up to its final character, a letter or one of a few signs. If a closing
bracket follows, it is a command of its own text, up to a bell or to an escape
character with a backslash. Any other character after the escape character ends
the sequence.

A sequence that is not finished takes the rest of the text.

## Main definitions

* `ControlState`: Where in a control sequence a place is.
* `shownChars`: The characters that are shown.
* `displayWidth`: The columns of a text.
-/

namespace Manuscript

/-- Where in a control sequence a place in a text is. -/
inductive ControlState where
  /-- Outside of every sequence. -/
  | outside
  /-- After the escape character. -/
  | escaped
  /-- In a sequence that goes on up to its final character. -/
  | sequence
  /-- In a command, possibly directly after an escape character. -/
  | command (closing : Bool)
deriving DecidableEq, Repr

namespace ControlState

/-- The character that starts a sequence. -/
def escape : Char := '\x1b'

/-- The character that ends a command. -/
def bell : Char := '\x07'

/-- Whether the character is shown. -/
def shows (s : ControlState) (c : Char) : Bool := s = outside && c != escape

/-- Whether the character ends a sequence after a bracket. -/
def isFinal (c : Char) : Bool := '@' ≤ c && c ≤ '~'

/-- After one more character. -/
def next (s : ControlState) (c : Char) : ControlState :=
  match s with
  | outside => if c = escape then escaped else outside
  | escaped => if c = '[' then sequence else if c = ']' then command false else outside
  | sequence => if isFinal c then outside else sequence
  | command closing =>
    if c = bell || (closing && c = '\\') then outside else command (c = escape)

end ControlState

/-- The characters that are shown of a text that starts in some state. -/
def shownFrom (s : ControlState) : List Char → List Char
  | [] => []
  | c :: cs => if s.shows c then c :: shownFrom (s.next c) cs else shownFrom (s.next c) cs

/-- The characters of a text that are shown. -/
def shownChars (cs : List Char) : List Char := shownFrom .outside cs

/-- How many columns a text takes. -/
def displayWidth (cs : List Char) : Nat := (shownChars cs).foldl (fun n c => n + charWidth c) 0

end Manuscript
