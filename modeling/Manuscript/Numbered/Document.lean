import Manuscript.Index.Footnotes
import Manuscript.Index.Identifiers
import Manuscript.Index.FormalItems

/-!
# Numbered Documents

A document after numbering, together with what was gathered on the way: its
footnotes, its identifiers and its formal items by kind.

Parts, sections and subsections are found by number. The position in a number
says where to look, and the element there has to carry the very number that
was asked for, so a number of the wrong shape finds nothing.

## Main definitions

* `Index`: The three collections.
* `Document`: A numbered document.
* `Document.part?`, `Document.section?`, `Section.subsection?`: The element of
  a number.
-/

namespace Manuscript

/-- What is gathered while a document is numbered. -/
structure Index where
  identifiers : Identifiers
  footnotes : Footnotes
  formalItems : FormalItems

/-- Nothing gathered yet. -/
def Index.empty : Index := ⟨.empty, .empty, .empty⟩

/-- A document is divided into parts throughout, or into sections throughout. -/
inductive Body where
  | parts (parts : List Part)
  | sections (sections : List Section)

/-- A numbered document and its index. -/
structure Document where
  title : String
  tableOfContents : Bool
  style? : Option String
  body : Body
  index : Index

namespace Section

/-- The subsection of a number, if it lies in this section. -/
def subsection? (s : Section) (n : SubsectionNumber) : Option Subsection :=
  if n.parent = s.number then
    (n.position.of? s.subsections).filter fun found => found.number = n
  else none

end Section

namespace Part

/-- The section of a number, if it lies in this part. -/
def section? (p : Part) (n : SectionNumber) : Option Section :=
  if n.part? = some p.number then
    (n.position.of? p.sections).filter fun found => found.number = n
  else none

end Part

namespace Document

/-- Whether the document is divided into parts. -/
def hasParts (d : Document) : Bool :=
  match d.body with
  | .parts _ => true
  | .sections _ => false

/-- The parts; a document that is divided into sections has none. -/
def parts (d : Document) : List Part :=
  match d.body with
  | .parts parts => parts
  | .sections _ => []

/-- Every section in order, across parts. -/
def sections (d : Document) : List Section :=
  match d.body with
  | .parts parts => parts.flatMap (·.sections)
  | .sections sections => sections

/-- The part of a number. -/
def part? (d : Document) (n : PartNumber) : Option Part := n.position.of? d.parts

/-- The section of a number, looked for in its part if it names one. -/
def section? (d : Document) (n : SectionNumber) : Option Section :=
  match d.body, n.part? with
  | .parts _, some p => (d.part? p).bind fun part => part.section? n
  | .sections sections, none =>
    (n.position.of? sections).filter fun found => found.number = n
  | _, _ => none

/-- The element an identifier stands for. -/
def lookup (d : Document) (id : String) : Option Element := d.index.identifiers.lookup id

/-- The footnotes in number order. -/
def footnotes (d : Document) : List NumberedNote := d.index.footnotes.toList

end Document

end Manuscript
