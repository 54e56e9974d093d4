/-!
# Characters of YAML Text

The classes of characters on which the rules of YAML text are built. Five
characters end a line, and a carriage return followed by a line feed ends one
line together. Within a line only the space and the tab count as blanks, so
the class is narrower than that of blanks in general.

A text may hold only characters that can be shown, apart from tabs and line
breaks; a text with any other control character in it is not YAML.

## Main definitions

* `Yaml.isBreak`: The characters that end a line.
* `Yaml.isGap`: The blanks within a line.
* `Yaml.isReadable`: The characters a text may hold.
* `Yaml.endsWord`: Whether a line ends or has a blank at a place.
-/

namespace Manuscript

namespace Yaml

/-- The mark that tells the byte order, which may stand at the start of a line. -/
def byteOrderMark : Char := '\ufeff'

/-- Whether the character ends a line. -/
def isBreak (c : Char) : Bool :=
  c = '\n' || c = '\r' || c = '\u0085' || c = '\u2028' || c = '\u2029'

/-- Whether the character is a blank within a line. -/
def isGap (c : Char) : Bool := c = ' ' || c = '\t'

/-- Whether a text may hold the character. -/
def isReadable (c : Char) : Bool :=
  c = '\t' || c = '\n' || c = '\r' || c = '\u0085' ||
    (0x20 ≤ c.toNat && c.toNat ≤ 0x7e) || (0xa0 ≤ c.toNat && c.toNat ≤ 0xfffd) ||
    0x10000 ≤ c.toNat

/-- What a line break stands for in the text of a scalar: the separators stand for themselves, and
    every other line break for a line feed. -/
def lineBreak (c : Char) : Char := if c = '\u2028' || c = '\u2029' then c else '\n'

/-- Whether the character may stand in the name of an anchor. -/
def isNameChar (c : Char) : Bool := c.isAlphanum || c = '-' || c = '_'

/-- Whether the text is at its end, or goes on with a blank or a line break. -/
def endsWord : List Char → Bool
  | [] => true
  | c :: _ => isGap c || isBreak c

/-- Whether the text goes on with `---` or `...` as a word of its own. -/
def marksDocument : List Char → Bool
  | '-' :: '-' :: '-' :: cs => endsWord cs
  | '.' :: '.' :: '.' :: cs => endsWord cs
  | _ => false

end Yaml

end Manuscript
