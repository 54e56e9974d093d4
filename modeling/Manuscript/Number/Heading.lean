import Manuscript.Number.Position

/-!
# Numbers of Headings

Parts, sections and subsections are numbered by where they stand. A part has a
position and nothing else. A section stands in a part or, in a document
without parts, directly in the document. A subsection extends the number of
its section.

Every number prints as its components from the outermost in, joined by dots,
and numbers are compared component by component in that same order. A section
that stands in no part comes before every section that does.

## Main definitions

* `PartNumber`, `SectionNumber`, `SubsectionNumber`: The three kinds of
  heading numbers.
* `dotted`: Components joined by dots.

## Theorems

* `SectionNumber.subsection_parent`: Extending a section number by a position
  and returning to its parent gives the section number back.
-/

namespace Manuscript

/-- Components in decimal, joined by dots. -/
def dotted (components : List Nat) : String :=
  ".".intercalate (components.map toString)

/-- The number of a part. -/
structure PartNumber where
  /-- Where the part stands in its document. -/
  position : Position
deriving DecidableEq, Repr, Inhabited

/-- The number of a section, alone or within a part. -/
structure SectionNumber where
  /-- The part around the section, in a document that has parts. -/
  part? : Option PartNumber
  /-- Where the section stands in its part or document. -/
  position : Position
deriving DecidableEq, Repr, Inhabited

/-- The number of a subsection. -/
@[ext]
structure SubsectionNumber where
  /-- The section around the subsection. -/
  parent : SectionNumber
  /-- Where the subsection stands in its section. -/
  position : Position
deriving DecidableEq, Repr, Inhabited

namespace PartNumber

instance : Ord PartNumber := ⟨compareOn PartNumber.position⟩

/-- The number of the first part. -/
def first : PartNumber := ⟨Position.first⟩

/-- The number the word names. -/
def ofWord (part : UInt32) : Except ZeroComponent PartNumber := do
  return ⟨← Position.ofWord .part part⟩

/-- The number of the part that follows; the last possible part is followed by itself. -/
def next (n : PartNumber) : PartNumber := ⟨n.position.next⟩

/-- The number of the part before, if there is one. -/
def previous? (n : PartNumber) : Option PartNumber := n.position.previous?.map PartNumber.mk

/-- The number of the section at `position` within this part. -/
def sectionAt (n : PartNumber) (position : Position) : SectionNumber := ⟨some n, position⟩

/-- The single component of the number. -/
def components (n : PartNumber) : List Nat := [n.position.val]

/-- The printed number. -/
def text (n : PartNumber) : String := dotted n.components

end PartNumber

namespace SectionNumber

instance : Ord SectionNumber :=
  ⟨compareLex (compareOn SectionNumber.part?) (compareOn SectionNumber.position)⟩

/-- The number the words name. The part is looked at before the section. -/
def ofWords (part? : Option UInt32) (word : UInt32) : Except ZeroComponent SectionNumber := do
  let part ← Position.ofWordIfAny .part part?
  let position ← Position.ofWord .sect word
  return ⟨part.map PartNumber.mk, position⟩

/-- The number of the section that follows among its siblings. -/
def next (n : SectionNumber) : SectionNumber := { n with position := n.position.next }

/-- The number of the section before among its siblings, if there is one. -/
def previous? (n : SectionNumber) : Option SectionNumber :=
  n.position.previous?.map fun p => { n with position := p }

/-- The number of the subsection at `position` within this section. -/
def subsectionAt (n : SectionNumber) (position : Position) : SubsectionNumber := ⟨n, position⟩

/-- The components from the outermost in. -/
def components (n : SectionNumber) : List Nat :=
  (n.part?.map (·.position.val)).toList ++ [n.position.val]

/-- The printed number. -/
def text (n : SectionNumber) : String := dotted n.components

end SectionNumber

namespace SubsectionNumber

instance : Ord SubsectionNumber :=
  ⟨compareLex (compareOn SubsectionNumber.parent) (compareOn SubsectionNumber.position)⟩

/-- The number the words name, looked at from the outermost in. -/
def ofWords (part? : Option UInt32) (outer inner : UInt32) :
    Except ZeroComponent SubsectionNumber := do
  let parent ← SectionNumber.ofWords part? outer
  let position ← Position.ofWord .subsect inner
  return ⟨parent, position⟩

/-- The part around the subsection, if any. -/
def part? (n : SubsectionNumber) : Option PartNumber := n.parent.part?

/-- The components from the outermost in. -/
def components (n : SubsectionNumber) : List Nat := n.parent.components ++ [n.position.val]

/-- The printed number. -/
def text (n : SubsectionNumber) : String := dotted n.components

end SubsectionNumber

theorem SectionNumber.subsection_parent (n : SectionNumber) (p : Position) :
    (n.subsectionAt p).parent = n := rfl

end Manuscript
