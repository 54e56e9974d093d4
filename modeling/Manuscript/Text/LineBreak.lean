import Manuscript.Text.LineBreak.Class

/-!
# Line Breaks

Where a line of text may end, by the rules of the standard for line breaks.
Words are not looked up, so a script that does not separate its words by
spaces, nor breaks between any two letters as ideographs do, has no places to
break within its texts.

The rules look at the classes of the two characters at a place. A combining
mark belongs to the character before it and does not count by itself. Spaces
belong to what comes before them: a line does not end before a space, and it
may end after spaces except where the characters around them hold together all
the same, as an opening bracket and what it opens.

A quotation mark can open or close, whatever its kind. One of the kind that
opens is taken to do so after a space or another opening mark, and then it
holds on to what follows even across spaces. One of the kind that closes is
taken to do so before a space or another closing mark, and then it holds on to
what comes before.

A dotted circle stands for a letter. Two of them in a row are a unit, after
which a line may end unless the word goes on, even before a space.

What has to be known of the characters before a place is a small state, and of
those after it at most the next two that are not marks, so the places are found
in one pass from the front.

## Main definitions

* `LineBreakState`: What has to be known of the characters before a place.
* `LineBreakState.allows`: Whether a line may end before a character.
* `lineEnds`: Where the lines of a text may end.
-/

namespace Manuscript

namespace LineBreakClass

/-- Whether the character belongs to the one before it. -/
def attaches (c : LineBreakClass) : Bool := c = mark || c = joiner

/-- Whether the class holds letters, also those of Hebrew, or what stands for one. -/
def isLetter (c : LineBreakClass) : Bool := c = letter || c = hebrew || c = dottedCircle

/-- Whether the class holds letters or digits. -/
def isWord (c : LineBreakClass) : Bool := c.isLetter || c = numeric

/-- Whether the class holds parts of Hangul syllables or whole ones. -/
def isHangul (c : LineBreakClass) : Bool :=
  c = leadingJamo || c = vowelJamo || c = trailingJamo || c = openSyllable || c = closedSyllable

/-- Whether the class holds pictures and ideographs. -/
def isPicture (c : LineBreakClass) : Bool :=
  c = ideograph || c = emojiBase || c = emojiModifier || c = reserved

/-- Whether the class holds letters of the scripts that write syllables as units, or what stands for
    one. -/
def isAksara (c : LineBreakClass) : Bool := c = aksara || c = aksaraStart || c = dottedCircle

/-- Whether characters of the class come in pairs. -/
def isPaired (c : LineBreakClass) : Bool := c = regional || c = dottedCircle

/-- Whether the class starts a bracket. -/
def isOpener (c : LineBreakClass) : Bool := c = opening || c = wideOpening

/-- Whether the class ends a bracket. -/
def isCloser (c : LineBreakClass) : Bool := c = closing || c = parenthesis

/-- Whether the class holds quotation marks. -/
def isQuotation (c : LineBreakClass) : Bool :=
  c = quotation || c = openingQuotation || c = closingQuotation

/-- Whether a quotation mark that comes next can close something, judged by the character after
    it. -/
def endsQuoted (c : LineBreakClass) : Bool :=
  c = space || c = zeroSpace || c = glue || c = wordJoiner || c.isCloser || c.isQuotation ||
    c = exclamation || c = separator || c = slash

/-- Whether no line ends between two characters, even if spaces are between them. -/
def holdsAcross (a c : LineBreakClass) : Bool :=
  c = wordJoiner || c.isCloser || c = exclamation || c = separator || c = slash ||
    a.isOpener || (a.isCloser && c = nonstarter) || (a = around && c = around)

/-- Whether a character holds on to another beside it, whatever that is. -/
def clings (a c : LineBreakClass) : Bool :=
  a = wordJoiner || a = glue || (c = glue && a != after && a != hyphen) ||
    a.isQuotation || c.isQuotation

/-- Whether two characters belong to one number. -/
def holdsNumber (a c : LineBreakClass) : Bool :=
  ((a.isCloser || a = numeric) && (c = afterNumber || c = beforeNumber)) ||
    ((a = afterNumber || a = beforeNumber) && (c.isOpener || c = numeric)) ||
    ((a = hyphen || a = separator || a = numeric || a = slash) && c = numeric)

/-- Whether two characters are parts of one Hangul syllable. -/
def holdsSyllable (a c : LineBreakClass) : Bool :=
  (a = leadingJamo && c.isHangul && c != trailingJamo) ||
    ((a = vowelJamo || a = openSyllable) && (c = vowelJamo || c = trailingJamo)) ||
    ((a = trailingJamo || a = closedSyllable) && c = trailingJamo)

/-- Whether two characters belong to one word. A bracket as wide as an ideograph starts anew. -/
def holdsWord (a c : LineBreakClass) : Bool :=
  (a.isLetter && (c.isLetter || c = numeric || c = beforeNumber || c = afterNumber)) ||
    ((a = numeric || a = beforeNumber || a = afterNumber || a = separator) && c.isLetter) ||
    (a.isWord && c = opening) || (a = parenthesis && c.isWord) || (a = slash && c = hebrew)

/-- Whether two characters hold together that are side by side. -/
def holds (a c : LineBreakClass) : Bool :=
  c = after || c = hyphen || c = nonstarter || a = before || c = inseparable ||
    (a = beforeNumber && (c.isPicture || c.isHangul)) ||
    ((a.isPicture || a.isHangul) && c = afterNumber) ||
    holdsNumber a c || holdsSyllable a c || holdsWord a c ||
    ((a = emojiBase || a = reserved) && c = emojiModifier)

/-- The class of the first character that does not belong to one before it. -/
def following? (rest : List LineBreakClass) : Option LineBreakClass := rest.find? (!·.attaches)

end LineBreakClass

/-- What has to be known of the characters before a place in a text. -/
structure LineBreakState where
  /-- The class of the last character that is neither a space nor belongs to one before it. -/
  last : LineBreakClass
  /-- Whether spaces come after it. -/
  spaced : Bool
  /-- Whether the very last character is a joiner. -/
  joined : Bool
  /-- Whether a Hebrew letter comes directly before it. -/
  afterHebrew : Bool
  /-- Whether it is a virama and comes directly after what it joins to the next letter. -/
  joinsAksaras : Bool
  /-- Whether it is a quotation mark that opens. -/
  quotes : Bool
  /-- Whether it is the first of a pair. -/
  opensPair : Bool
deriving DecidableEq, Repr

namespace LineBreakState

open LineBreakClass

/-- After a character that starts anew, at the start of the text or after spaces. -/
def ofClass (c : LineBreakClass) : LineBreakState :=
  ⟨c, false, false, false, false, c = openingQuotation, c.isPaired⟩

/-- After the first character of a text. A mark that has no character to belong to is a letter. -/
def first (c : LineBreakClass) : LineBreakState :=
  if c = space then { ofClass space with spaced := true }
  else if c.attaches then { ofClass letter with joined := c = joiner }
  else ofClass c

/-- Whether a mark after these characters belongs to the last of them. -/
def takesMarks (s : LineBreakState) : Bool := !s.spaced && s.last != zeroSpace

/-- After one more character. -/
def next (s : LineBreakState) (c : LineBreakClass) : LineBreakState :=
  if c = space then { s with spaced := true, joined := false }
  else if c.attaches then
    if s.takesMarks then { s with joined := c = joiner }
    else { ofClass letter with joined := c = joiner }
  else if s.spaced then ofClass c
  else { ofClass c with
    afterHebrew := s.last = hebrew
    joinsAksaras := c = virama && s.last.isAksara
    quotes := c = openingQuotation && (s.last.isOpener || s.last.isQuotation || s.last = glue ||
      s.last = zeroSpace)
    opensPair := c.isPaired && !(s.last = c && s.opensPair) }

/-- Whether the last character is the second of two dotted circles. -/
def endsCircles (s : LineBreakState) : Bool :=
  s.last = dottedCircle && !s.opensPair && !s.spaced

/-- Whether the next character belongs to the word or syllable of two dotted circles before it. A
    third circle does not. -/
def extendsCircles (s : LineBreakState) (c : LineBreakClass) : Bool :=
  c != dottedCircle && (s.last.holdsWord c || c = finalVirama)

/-- Whether the last character and the next one belong to one syllable that is written as a unit.
    The characters after them tell of a sign that ends it. -/
def holdsAksara (s : LineBreakState) (c : LineBreakClass) (rest : List LineBreakClass) : Bool :=
  (s.last = aksaraPrefix && c.isAksara) || (s.last.isAksara && (c = virama || c = finalVirama)) ||
    (s.joinsAksaras && (c = aksara || c = dottedCircle)) ||
    (s.last.isAksara && c.isAksara && following? rest = some finalVirama)

/-- Whether a line may end before a character that belongs to none before it. `rest` is what comes
    after that character. -/
def allowsBase (s : LineBreakState) (c : LineBreakClass) (rest : List LineBreakClass) : Bool :=
  if s.last.holdsAcross c || s.quotes then false
  else if c = closingQuotation && (following? rest).all endsQuoted then false
  else if s.spaced then true
  else if s.last.clings c then false
  else if s.last = contingent || c = contingent then true
  else if s.afterHebrew && (s.last = hyphen || s.last = after) then false
  else if s.holdsAksara c rest then false
  else if c = regional && s.last = regional then !s.opensPair
  else !(s.last.holds c)

/-- Whether a line may end before a character. `rest` is what comes after it. Two dotted circles
    hold on to no more than the rest of their word, so a line may end even before the spaces after
    them. -/
def allows (s : LineBreakState) (c : LineBreakClass) (rest : List LineBreakClass) : Bool :=
  if s.endsCircles && !s.joined && !c.attaches then !s.extendsCircles c
  else if c = space || c = zeroSpace then false
  else if s.last = zeroSpace then true
  else if s.joined || (c.attaches && s.takesMarks) then false
  else s.allowsBase (if c.attaches then letter else c) rest

end LineBreakState

/-- Whether a line may end after each character and at the end, from some state on. -/
def lineEndsFrom (s : LineBreakState) : List LineBreakClass → List Bool
  | [] => [true]
  | c :: rest => s.allows c rest :: lineEndsFrom (s.next c) rest

/-- Whether a line may end after each character of a text. After the last one it may. -/
def lineEnds (cs : List Char) : List Bool :=
  match cs.map LineBreakClass.ofChar with
  | [] => []
  | c :: rest => lineEndsFrom (.first c) rest

end Manuscript
