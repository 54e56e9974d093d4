import Manuscript.Text.Ranges

/-!
# Blanks and Words

A blank is a character with the property White_Space. Text is trimmed of
blanks at its ends, and a text's words are its maximal runs of characters that
are not blank.

The class is wider than the blanks of a keyboard: it holds the no-break space
and the ideographic space as well as the next-line control. Zero-width spaces
are not in it.

## Main definitions

* `isBlank`: Whether a character is a blank.
* `trim`, `trimEnd`: Text without blanks at its ends.
* `words`: The maximal runs of characters that are not blank.
* `normalizeSpace`: The words joined by single spaces.
-/

namespace Manuscript

/-- The characters with the property White_Space. -/
def blankRanges : CharRanges :=
  [(0x9, 0xd), (0x20, 0x20), (0x85, 0x85), (0xa0, 0xa0), (0x1680, 0x1680), (0x2000, 0x200a),
   (0x2028, 0x2029), (0x202f, 0x202f), (0x205f, 0x205f), (0x3000, 0x3000)]

/-- Whether the character is a blank. -/
def isBlank (c : Char) : Bool := blankRanges.contains c

namespace Text

/-- The characters up to and including the last that is not a blank. -/
def trimEnd (cs : List Char) : List Char := (cs.reverse.dropWhile isBlank).reverse

/-- The characters from the first to the last that is not a blank. -/
def trim (cs : List Char) : List Char := trimEnd (cs.dropWhile isBlank)

/-- Collects words from the front. `word` holds the word under way, last character first. -/
def wordsFrom : List Char → List Char → List (List Char)
  | [], [] => []
  | word, [] => [word.reverse]
  | word, c :: cs =>
    if isBlank c then
      if word.isEmpty then wordsFrom [] cs else word.reverse :: wordsFrom [] cs
    else wordsFrom (c :: word) cs

/-- The maximal runs of characters that are not blank, in order. -/
def words (cs : List Char) : List (List Char) := wordsFrom [] cs

/-- The words of a text joined by single spaces. -/
def normalizeSpace (s : String) : String :=
  " ".intercalate ((words s.toList).map String.ofList)

end Text

end Manuscript
