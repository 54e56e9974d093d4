import Manuscript.Number.Heading
import Manuscript.Text.Blank
import Manuscript.Text.Numeral

/-!
# Segments

A segment is what a reader can go to next: a part, or a section. In a
document without parts every segment is a section; in one with parts the
parts and the sections within them are segments alike.

A segment is named in text by its number: one numeral, or two joined by a dot.
What a single numeral means depends on the document, so the reader of such
text is told whether the document has parts. Blanks around the text do not
count.

## Main definitions

* `SegmentNumber`: The number of a part or a section.
* `SegmentError`: Why a text names no segment.
* `SegmentNumber.read`: The segment a text names.
-/

namespace Manuscript

/-- The number of a part or of a section. -/
inductive SegmentNumber where
  | ofPart (number : PartNumber)
  | ofSection (number : SectionNumber)
deriving DecidableEq, Repr

/-- Why a text names no segment. -/
inductive SegmentError where
  /-- The text is not a numeral, or two joined by a dot, as the document asks for. -/
  | malformed (text : String)
  /-- The text is well-formed but counts from zero. -/
  | zero (error : ZeroComponent)
deriving DecidableEq, Repr

namespace SegmentNumber

/-- The part, if the segment is one. -/
def asPart? : SegmentNumber → Option PartNumber
  | ofPart n => some n
  | ofSection _ => none

/-- The section, if the segment is one. -/
def asSection? : SegmentNumber → Option SectionNumber
  | ofPart _ => none
  | ofSection n => some n

/-- The components from the outermost in. -/
def components : SegmentNumber → List Nat
  | ofPart n => n.components
  | ofSection n => n.components

/-- The printed number. -/
def text (n : SegmentNumber) : String := dotted n.components

/-- A segment as it is written: one numeral, or two joined by a dot. Numerals that do not fit in
    a word are refused. -/
def readWords? (cs : List Char) : Option (UInt32 × Option UInt32) :=
  match cs.span (· ≠ '.') with
  | (whole, []) => (Numeral.readWord? whole).map (·, none)
  | (outer, _ :: inner) => do
    let a ← Numeral.readWord? outer
    let b ← Numeral.readWord? inner
    return (a, some b)

/-- The segment a text names in a document with or without parts. -/
def read (text : String) (hasParts : Bool) : Except SegmentError SegmentNumber :=
  match readWords? (Text.trim text.toList), hasParts with
  | some (n, none), false => ((SectionNumber.ofWords none n).map ofSection).mapError .zero
  | some (n, none), true => ((PartNumber.ofWord n).map ofPart).mapError .zero
  | some (p, some n), true => ((SectionNumber.ofWords (some p) n).map ofSection).mapError .zero
  | some (_, some _), false => .error (.malformed text)
  | none, _ => .error (.malformed text)

end SegmentNumber

end Manuscript
