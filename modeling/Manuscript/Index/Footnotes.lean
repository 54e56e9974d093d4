import Manuscript.Numbered.Element

/-!
# The Sequence of Footnotes

The footnotes of a document in the order in which they were finished. A
footnote is numbered by how many were finished before it, so the number of a
footnote is also its place in the sequence. Footnotes are only ever added at
the end.

## Main definitions

* `Footnotes`: The sequence.
* `Footnotes.append`: Numbers a footnote and adds it.
* `Footnotes.since`: What was added after a mark.

## Theorems

* `Footnotes.toList_append`: An added footnote stands at the end.
-/

namespace Manuscript

/-- The finished footnotes of a document. -/
structure Footnotes where
  notes : Array NumberedNote

namespace Footnotes

/-- No footnotes. -/
def empty : Footnotes := ⟨#[]⟩

/-- How many footnotes there are. -/
def size (f : Footnotes) : Nat := f.notes.size

/-- The footnotes in number order. -/
def toList (f : Footnotes) : List NumberedNote := f.notes.toList

/-- Gives content the next number and adds it as a footnote. The content is numbered already, so
    the footnotes within it have smaller numbers. -/
def append (f : Footnotes) (content : List (Inline FootnoteNumber)) : NumberedNote × Footnotes :=
  let note : NumberedNote := ⟨f.size, content⟩
  (note, ⟨f.notes.push note⟩)

/-- The footnotes that were added after there were `mark`. -/
def since (f : Footnotes) (mark : Nat) : List NumberedNote := (f.notes.extract mark).toList

/-- The footnote of a number. -/
def get? (f : Footnotes) (number : FootnoteNumber) : Option NumberedNote := f.notes[number]?

theorem toList_append (f : Footnotes) (content : List (Inline FootnoteNumber)) :
    (f.append content).2.toList = f.toList ++ [⟨f.size, content⟩] := by
  simp [append, toList]

end Footnotes

end Manuscript
