import Manuscript.Draft
import Manuscript.Numbered.Document
import Manuscript.Proofs.Content.Notes

/-!
# What a Document Holds

The footnotes and the elements of a document as plain lists. Footnotes are
listed in document order, those within a footnote before it. They are listed
for drafts in the same way as for numbered documents, so the two lists can be
compared.

Elements are listed in the order in which they are finished: what a section or
part holds comes before the section or part. The list leaves nothing out, so
to be in it is to stand somewhere in the document.

## Main definitions

* `Draft.Document.notes`, `Document.notes`: The footnotes of a document.
* `Document.elements`: The elements of a numbered document.
* `Section.blocks`: The paragraphs and formal items of a section.
* `Draft.Document.handbook`: A small draft with elements of every class.
-/

namespace Manuscript

/-! ### Footnotes of drafts -/

namespace Draft

def Block.notes : Block → List (Footnote Unit)
  | .paragraph p => p.content.flatMap ParagraphItem.notes
  | .formalItem f => f.content.notes

def Subsection.notes (s : Subsection) : List (Footnote Unit) := s.content.flatMap Block.notes

def SectionBody.notes : SectionBody → List (Footnote Unit)
  | .content blocks => blocks.flatMap Block.notes
  | .subsections divisions => divisions.flatMap Subsection.notes

def Section.notes (s : Section) : List (Footnote Unit) := s.body.notes

def Part.notes (p : Part) : List (Footnote Unit) := p.sections.flatMap Section.notes

def Body.notes : Body → List (Footnote Unit)
  | .parts divisions => divisions.flatMap Part.notes
  | .sections divisions => divisions.flatMap Section.notes

def Document.notes (d : Document) : List (Footnote Unit) := d.body.notes

/-- Every section of a draft in order, across parts. -/
def Document.sections (d : Document) : List Section :=
  match d.body with
  | .parts divisions => divisions.flatMap (·.sections)
  | .sections divisions => divisions

end Draft

/-! ### Footnotes of numbered documents -/

def Paragraph.notes (p : Paragraph) : List NumberedNote := p.content.flatMap ParagraphItem.notes

def FormalItem.notes (f : FormalItem) : List NumberedNote := f.content.notes

def Block.notes : Block → List NumberedNote
  | .paragraph p => p.notes
  | .formalItem f => f.notes

def Subsection.notes (s : Subsection) : List NumberedNote := s.content.flatMap Block.notes

def SectionBody.notes : SectionBody → List NumberedNote
  | .content blocks => blocks.flatMap Block.notes
  | .subsections divisions => divisions.flatMap Subsection.notes

/-- The footnotes of a section, as they stand in its body. -/
def Section.notes (s : Section) : List NumberedNote := s.body.notes

def Part.notes (p : Part) : List NumberedNote := p.sections.flatMap Section.notes

def Body.notes : Body → List NumberedNote
  | .parts divisions => divisions.flatMap Part.notes
  | .sections divisions => divisions.flatMap Section.notes

/-- The footnotes of a document, as they stand in its body. -/
def Document.notes (d : Document) : List NumberedNote := d.body.notes

/-! ### Elements -/

def Block.element : Block → Element
  | .paragraph p => .paragraph p
  | .formalItem f => .formalItem f

/-- The blocks of a subsection, and then the subsection. -/
def Subsection.elements (s : Subsection) : List Element :=
  s.content.map Block.element ++ [.subsect s]

def SectionBody.elements : SectionBody → List Element
  | .content blocks => blocks.map Block.element
  | .subsections divisions => divisions.flatMap Subsection.elements

/-- The elements in a section, and then the section. -/
def Section.elements (s : Section) : List Element := s.body.elements ++ [.sect s]

def Part.elements (p : Part) : List Element := p.sections.flatMap Section.elements ++ [.part p]

def Body.elements : Body → List Element
  | .parts divisions => divisions.flatMap Part.elements
  | .sections divisions => divisions.flatMap Section.elements

/-- Every part, section, subsection, paragraph and formal item of a document. -/
def Document.elements (d : Document) : List Element := d.body.elements

/-- The paragraphs and formal items of a section, those of its subsections included. -/
def Section.blocks (s : Section) : List Block :=
  match s.body with
  | .content blocks => blocks
  | .subsections divisions => divisions.flatMap (·.content)

/-- A small draft. It has two parts, a section of either kind, an item among paragraphs, and
    footnotes within a footnote and within a list. -/
def Draft.Document.handbook : Draft.Document :=
  ⟨"Handbook", true, none, .parts [
    ⟨"Basics", some "basics", none, true, [
      ⟨"Terms", some "terms", none, false, .content [
        .paragraph ⟨none, none,
          [.inline (.footnote ⟨(), [.text "outer", .footnote ⟨(), [.text "inner"]⟩]⟩)]⟩,
        .formalItem ⟨"Overview", "figure", some "overview", none, .verbatim ⟨"+--+", none⟩⟩,
        .paragraph ⟨some "usage", none, [.inline (.text "See above.")]⟩]⟩,
      ⟨"Rules", none, none, false, .subsections [
        ⟨"Writing", some "writing", none, [
          .formalItem ⟨"Marks", "figure", some "marks", none,
            .list ⟨.ordered, none, [⟨none, [.footnote ⟨(), [.text "listed"]⟩]⟩]⟩⟩,
          .paragraph ⟨none, none, [.inline (.text "Write clearly.")]⟩]⟩]⟩]⟩,
    ⟨"Practice", none, none, false, [
      ⟨"Exercises", none, none, false, .content [
        .paragraph ⟨none, none, [.inline (.text "One.")]⟩]⟩]⟩]⟩

end Manuscript
