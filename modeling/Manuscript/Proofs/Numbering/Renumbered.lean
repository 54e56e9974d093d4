import Manuscript.Proofs.Content.Renumbered
import Manuscript.Proofs.Numbering.Listing
import Manuscript.Proofs.Numbering.Structure

/-!
# Renumbered Elements

Elements with other footnote numbers, and everything else as it was: their own
numbers, titles, identifiers and what they hold. An element that is built where
another number of footnotes stands before it is the same element, with the
numbers of its footnotes moved.

So a section depends on its surroundings by its own number and by one count. The
structure of the document is walked along with that count, and the count is all
in which two such walks differ.

## Main definitions

* `Section.mapNotes`, `Part.mapNotes`: Divisions with other footnote numbers.
* `Element.mapNotes`: The same for an element of any class.

## Theorems

* `Section.elements_mapNotes`: The elements of a section with other footnote numbers.
* `Draft.Section.renumber_numberFrom`: Counting from another number on moves those of a section.
* `Draft.renumber_numberSiblings`: The same for siblings.
-/

namespace Manuscript

/-! ### Elements with other footnote numbers -/

section

variable (f : FootnoteNumber → FootnoteNumber)

def Paragraph.mapNotes (p : Paragraph) : Paragraph :=
  { p with content := p.content.map (ParagraphItem.mapNumbers f) }

def FormalItem.mapNotes (x : FormalItem) : FormalItem :=
  { x with content := x.content.mapNumbers f }

def Block.mapNotes : Block → Block
  | .paragraph p => .paragraph (p.mapNotes f)
  | .formalItem x => .formalItem (x.mapNotes f)

def Subsection.mapNotes (s : Subsection) : Subsection :=
  { s with content := s.content.map (Block.mapNotes f) }

def SectionBody.mapNotes : SectionBody → SectionBody
  | .content blocks => .content (blocks.map (Block.mapNotes f))
  | .subsections divisions => .subsections (divisions.map (Subsection.mapNotes f))

/-- A section with other footnote numbers, in its body and in the list of its footnotes. -/
def Section.mapNotes (s : Section) : Section :=
  { s with body := s.body.mapNotes f, footnotes := s.footnotes.map (Footnote.mapNumbers f) }

def Part.mapNotes (p : Part) : Part := { p with sections := p.sections.map (Section.mapNotes f) }

def Element.mapNotes : Element → Element
  | part p => part (p.mapNotes f)
  | sect s => sect (s.mapNotes f)
  | subsect s => subsect (s.mapNotes f)
  | paragraph p => paragraph (p.mapNotes f)
  | formalItem x => formalItem (x.mapNotes f)

theorem Paragraph.notes_mapNotes (p : Paragraph) :
    (p.mapNotes f).notes = p.notes.map (Footnote.mapNumbers f) := by
  rw [notes, notes, mapNotes, List.flatMap_map, List.map_flatMap]
  exact congrArg (List.flatMap · p.content) (funext fun c => c.notes_mapNumbers f)

theorem Block.notes_mapNotes (b : Block) :
    (b.mapNotes f).notes = b.notes.map (Footnote.mapNumbers f) := by
  cases b with
  | paragraph p => exact p.notes_mapNotes f
  | formalItem x => exact x.content.notes_mapNumbers f

theorem notes_mapBlocks (blocks : List Block) :
    (blocks.map (Block.mapNotes f)).flatMap Block.notes =
      (blocks.flatMap Block.notes).map (Footnote.mapNumbers f) := by
  rw [List.flatMap_map, List.map_flatMap]
  exact congrArg (List.flatMap · blocks) (funext fun b => b.notes_mapNotes f)

theorem SectionBody.notes_mapNotes (body : SectionBody) :
    (body.mapNotes f).notes = body.notes.map (Footnote.mapNumbers f) := by
  cases body with
  | content blocks => exact notes_mapBlocks f blocks
  | subsections divisions =>
      rw [mapNotes, notes, notes, List.flatMap_map, List.map_flatMap]
      exact congrArg (List.flatMap · divisions) (funext fun s => notes_mapBlocks f s.content)

theorem Block.element_mapNotes (b : Block) : (b.mapNotes f).element = b.element.mapNotes f := by
  cases b with
  | paragraph p => rfl
  | formalItem x => rfl

theorem elements_mapBlocks (blocks : List Block) :
    (blocks.map (Block.mapNotes f)).map Block.element =
      (blocks.map Block.element).map (Element.mapNotes f) := by
  rw [List.map_map, List.map_map]
  exact congrArg (List.map · blocks) (funext fun b => b.element_mapNotes f)

theorem Subsection.elements_mapNotes (s : Subsection) :
    (s.mapNotes f).elements = s.elements.map (Element.mapNotes f) := by
  rw [elements, elements, List.map_append, ← elements_mapBlocks]
  rfl

/-- Other footnote numbers in a section are other footnote numbers in each of its elements. -/
theorem Section.elements_mapNotes (s : Section) :
    (s.mapNotes f).elements = s.elements.map (Element.mapNotes f) := by
  have hbody : (s.body.mapNotes f).elements = s.body.elements.map (Element.mapNotes f) := by
    cases s.body with
    | content blocks => exact elements_mapBlocks f blocks
    | subsections divisions =>
        rw [SectionBody.mapNotes, SectionBody.elements, SectionBody.elements, List.flatMap_map,
          List.map_flatMap]
        exact congrArg (List.flatMap · divisions) (funext fun t => t.elements_mapNotes f)
  rw [elements, elements, List.map_append, ← hbody]
  rfl

theorem Element.id?_mapNotes (e : Element) : (e.mapNotes f).id? = e.id? := by
  cases e <;> rfl

end

/-! ### Counting from another number on -/

namespace Draft

variable {f : FootnoteNumber → FootnoteNumber} {k l : Nat} (h : Renumbers f k l)

include h

theorem Paragraph.renumber_numberFrom (p : Paragraph) (number : ParagraphNumber) :
    (p.numberFrom number k).mapNotes f = p.numberFrom number l := by
  unfold Paragraph.numberFrom Manuscript.Paragraph.mapNotes
  rw [renumber_numberParagraphItems h]

theorem FormalItem.renumber_numberFrom (x : FormalItem) (number : FormalItemNumber) :
    (x.numberFrom number k).mapNotes f = x.numberFrom number l := by
  unfold FormalItem.numberFrom Manuscript.FormalItem.mapNotes
  rw [x.content.renumber_numberFrom h]

theorem renumber_numberBlocks (scope : Scope) (blocks : List Block) :
    (numberBlocks scope k blocks).map (Manuscript.Block.mapNotes f) =
      numberBlocks scope l blocks := by
  -- The blocks are counted class by class in both walks, so only the footnotes may differ.
  refine map_walk_of_related (R := fun c d => c.paragraphs = d.paragraphs ∧
    c.formalItems = d.formalItems ∧ Renumbers f c.notes d.notes) ?_ ?_ ⟨rfl, rfl, h⟩ blocks
  · rintro c d (p | x) ⟨hp, hx, hnotes⟩
    · rw [Block.numberFrom, Block.numberFrom, ← hp]
      exact congrArg Manuscript.Block.paragraph (p.renumber_numberFrom hnotes _)
    · rw [Block.numberFrom, Block.numberFrom, ← hx]
      exact congrArg Manuscript.Block.formalItem (x.renumber_numberFrom hnotes _)
  · rintro c d (p | x) ⟨hp, hx, hnotes⟩
    · exact ⟨congrArg (· + 1) hp, hx, hnotes.add _⟩
    · exact ⟨hp, congrArg (· + 1) hx, hnotes.add _⟩

/-- Siblings that are counted from another number on, if each of them changes with the count. -/
theorem renumber_numberSiblings {α β : Type} {held : α → List (Footnote Unit)}
    {number : Position → Nat → α → β} {g : β → β}
    (hg : ∀ p k l x, Renumbers f k l → g (number p k x) = number p l x) (i : Nat) (xs : List α) :
    (numberSiblings held number i k xs).map g = numberSiblings held number i l xs := by
  refine map_walk_of_related (R := fun c d => c.1 = d.1 ∧ Renumbers f c.2 d.2) ?_ ?_ ⟨rfl, h⟩ xs
  · rintro ⟨i, k⟩ ⟨j, l⟩ x ⟨rfl, hcount⟩
    exact hg (.ofIndex i) k l x hcount
  · rintro ⟨i, k⟩ ⟨j, l⟩ x ⟨rfl, hcount⟩
    exact ⟨rfl, hcount.add _⟩

theorem Subsection.renumber_numberFrom (number : SubsectionNumber) (s : Subsection) :
    (s.numberFrom number k).mapNotes f = s.numberFrom number l := by
  unfold Subsection.numberFrom Manuscript.Subsection.mapNotes
  rw [renumber_numberBlocks h]

theorem SectionBody.renumber_numberFrom (number : SectionNumber) (body : SectionBody) :
    (body.numberFrom number k).mapNotes f = body.numberFrom number l := by
  cases body with
  | content blocks =>
      exact congrArg Manuscript.SectionBody.content (renumber_numberBlocks h _ blocks)
  | subsections divisions =>
      exact congrArg Manuscript.SectionBody.subsections
        (renumber_numberSiblings h (fun _ _ _ s hcount => s.renumber_numberFrom hcount _) 0
          divisions)

/-- A section that is built where another number of footnotes stands before it. -/
theorem Section.renumber_numberFrom (number : SectionNumber) (s : Section) :
    (s.numberFrom number k).mapNotes f = s.numberFrom number l := by
  unfold Section.numberFrom Manuscript.Section.mapNotes
  rw [← SectionBody.notes_mapNotes, s.body.renumber_numberFrom h]

theorem Part.renumber_numberFrom (number : PartNumber) (p : Part) :
    (p.numberFrom number k).mapNotes f = p.numberFrom number l := by
  unfold Part.numberFrom Manuscript.Part.mapNotes numberSections
  rw [renumber_numberSiblings h fun _ _ _ s hcount => s.renumber_numberFrom hcount _]

end Draft

end Manuscript
