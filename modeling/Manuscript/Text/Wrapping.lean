import Manuscript.Text.Alphanumeric
import Manuscript.Text.ControlSequence
import Manuscript.Text.LineBreak

/-!
# Wrapping

Breaking text into lines of limited width. A line starts with an indent and
can be broken before any word. A word keeps the spaces that follow it, so the
words of a text make up the text, and a line is printed without the spaces at
its end.

The text falls into words where a line may end by the rules of the standard,
but not after a hyphen. A word can be broken after a hyphen between two letters
or digits, and a word that does not fit into a line by itself is cut. What is
not shown, as the sequences for a terminal, takes no room and goes with the
word under way.

Where to break is chosen for the paragraph as a whole. Every line has a cost:
a fixed amount, to which comes the square of the room left over, or much more
for each column that stands out. The last line may be short, unless it is a
short single word. Of all ways to break, the one with the least sum of costs
is taken. The choice is made from the front: for each place where a line can
start, the best way to get there is known from the earlier places.

A paragraph is put behind a marker. The empty word in front lets the first word
go to the second line, as any other word can.

## Main definitions

* `Word`: Letters and the spaces after them.
* `wordEnds`: Where the words of a text end.
* `wordsFor`: The words of a text for lines of some width.
* `lineSizes`: How many words to put into each line.
* `wrap`: A text in lines behind a marker.
-/

namespace Manuscript

namespace Text

/-- Letters, and how many spaces follow them. -/
structure Word where
  letters : List Char
  spaces : Nat
deriving DecidableEq, Repr

namespace Word

/-- The word of some characters, of which the spaces at the end are not letters. -/
def ofChars (cs : List Char) : Word :=
  let letters := cs.reverse.dropWhile (· = ' ')
  ⟨letters.reverse, cs.length - letters.length⟩

/-- The columns of the letters. -/
def width (w : Word) : Nat := displayWidth w.letters

/-- The word with the spaces after it. -/
def chars (w : Word) : List Char := w.letters ++ List.replicate w.spaces ' '

end Word

/-- The soft hyphen. -/
def softHyphen : Char := '\u00ad'

/-- Whether no word ends after the character, though a line may. -/
def staysInWord (c : Char) : Bool := c = '-' || c = softHyphen

/-- The list with the first of its marks taken away. -/
def unmarkFirst : List Bool → List Bool
  | [] => []
  | true :: marks => false :: marks
  | false :: marks => false :: unmarkFirst marks

/-- Whether a word ends after each character that is shown and another one follows. The last place
    where a line may end is the end of the text. A text that ends in a hyphen has no such place at
    its end, and the one before it is left out instead. -/
def wordEnds (shown : List Char) : List Bool :=
  let ends := List.zipWith (fun c ends => ends && !staysInWord c) shown (lineEnds shown)
  (unmarkFirst ends.reverse).reverse

/-- Collects words from the front. `word` holds the word under way, last character first, and
    `ends` tells for each shown character whether a word ends after it. -/
def splitFrom (s : ControlState) (word : List Char) (ends : List Bool) :
    List Char → List (List Char)
  | [] => if word.isEmpty then [] else [word.reverse]
  | c :: cs =>
    if s.shows c then
      if ends.head?.getD false then (c :: word).reverse :: splitFrom (s.next c) [] ends.tail cs
      else splitFrom (s.next c) (c :: word) ends.tail cs
    else splitFrom (s.next c) (c :: word) ends cs

/-- The words of a text. -/
def spaced (cs : List Char) : List Word :=
  (splitFrom .outside [] (wordEnds (shownChars cs)) cs).map .ofChars

/-- Collects the parts of a word from the front. `part` holds the part under way, last character
    first. -/
def hyphenatedFrom : List Char → List Char → List (List Char)
  | part, [] => [part.reverse]
  | part, c :: cs =>
    if c = '-' ∧ part.head?.any isAlphanumeric ∧ cs.head?.any isAlphanumeric then
      (c :: part).reverse :: hyphenatedFrom [] cs
    else hyphenatedFrom (c :: part) cs

/-- The parts of a word, which end after hyphens between letters or digits. -/
def hyphenated (letters : List Char) : List (List Char) := hyphenatedFrom [] letters

/-- Collects pieces of at most `room` columns from the front. `piece` holds the piece under way,
    last character first, and `size` is its width. -/
def cutFrom (room : Nat) (s : ControlState) (piece : List Char) (size : Nat) :
    List Char → List (List Char)
  | [] => [piece.reverse]
  | c :: cs =>
    let width := if s.shows c then charWidth c else 0
    if s.shows c ∧ 0 < size ∧ room < size + width then
      piece.reverse :: cutFrom room (s.next c) [c] width cs
    else cutFrom room (s.next c) (c :: piece) (size + width) cs

/-- The letters in pieces of at most `room` columns, but with one character that takes any. -/
def cut (room : Nat) (letters : List Char) : List (List Char) := cutFrom room .outside [] 0 letters

/-- The pieces of a word as words. The spaces follow the last one. -/
def joinSpaces (spaces : Nat) : List (List Char) → List Word
  | [] => []
  | [piece] => [⟨piece, spaces⟩]
  | piece :: rest => ⟨piece, 0⟩ :: joinSpaces spaces rest

/-- What a word can be broken into for lines of width `room`. -/
def Word.pieces (room : Nat) (w : Word) : List Word :=
  joinSpaces w.spaces ((hyphenated w.letters).flatMap (cut room))

/-- The words of a text for lines of width `room`. -/
def wordsFor (room : Nat) (cs : List Char) : List Word := (spaced cs).flatMap (Word.pieces room)

/-- The cost of each column that stands out. -/
def overhangCost : Nat := 2500

/-- The cost of a line with so many words and of so much width. -/
def lineCost (room width count : Nat) (isLast : Bool) : Nat :=
  let badness :=
    if room < width then overhangCost * (width - room)
    else if !isLast then (room - width) * (room - width)
    else if count = 1 ∧ 4 * width < room then 25
    else 0
  1000 + badness

/-- A place where a line can start, and the best way to get there. -/
structure LineStart where
  /-- How many words come before. -/
  index : Nat
  /-- The width of these words, spaces included. -/
  offset : Nat
  /-- The cost of the lines before. -/
  cost : Nat
  /-- How many words each of the lines before holds, the last line first. -/
  sizes : List Nat

/-- The way to a place by a line from `start` to there. The line ends with word number `index`,
    which reaches to `stop`. -/
def LineStart.advance (start : LineStart) (room index stop offset : Nat) (isLast : Bool) :
    LineStart :=
  let count := index - start.index
  ⟨index, offset, start.cost + lineCost room (stop - start.offset) count isLast,
    count :: start.sizes⟩

/-- The way of least cost from one of the starts, the last one first, by a line up to `stop`. Of two
    as good the later in the list is taken. The search ends where what stands out costs more than
    the best way so far, since a line from an earlier start stands out as much. -/
def cheapest (room stop : Nat) (reach : LineStart → LineStart) (best : LineStart) :
    List LineStart → LineStart
  | [] => best
  | s :: rest =>
    if best.cost < overhangCost * (stop - s.offset - room) then best
    else
      let way := reach s
      cheapest room stop reach (if way.cost ≤ best.cost then way else best) rest

/-- Goes through the words and finds the best way to each place. The places found so far are
    `last` and before it `earlier`, the last one first. -/
def bestStart (room : Nat) (last : LineStart) (earlier : List LineStart) :
    List Word → LineStart
  | [] => last
  | w :: rest =>
    let stop := last.offset + w.width
    let reach (s : LineStart) :=
      s.advance room (last.index + 1) stop (stop + w.spaces) rest.isEmpty
    bestStart room (cheapest room stop reach (reach last) earlier) (last :: earlier) rest

/-- How many words to put into each line of width `room`, for the least cost. -/
def lineSizes (room : Nat) (words : List Word) : List Nat :=
  (bestStart room ⟨0, 0, 0, []⟩ [] words).sizes.reverse

/-- The list in parts of the given sizes, and what is left as one more part. -/
def partition {α : Type} : List Nat → List α → List (List α)
  | [], [] => []
  | [], rest => [rest]
  | n :: sizes, items => items.take n :: partition sizes (items.drop n)

/-- A line of words, without the spaces after the last one. -/
def lineChars : List Word → List Char
  | [] => []
  | [w] => w.letters
  | w :: rest => w.chars ++ lineChars rest

/-- The text of lines behind a marker, each but the first after an indent as wide as the marker,
    as lines of `width` columns. -/
def wrap (width : Nat) (marker cs : List Char) : List (List Char) :=
  let room := width - marker.length
  let words := ⟨[], 0⟩ :: wordsFor room cs
  match (partition (lineSizes room words) words).map lineChars with
  | [] => [marker]
  | first :: rest =>
    (marker ++ first) :: rest.map (List.replicate marker.length ' ' ++ ·)

end Text

end Manuscript
