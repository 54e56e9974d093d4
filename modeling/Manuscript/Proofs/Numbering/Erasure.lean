import Manuscript.Proofs.Numbering.Gathering

/-!
# Erasing Numbers

A numbered document without what numbering added to it: the numbers of its
elements, the numbers of its footnotes, the footnotes that its sections list,
and the index. What is left is a draft, and it is the draft that was numbered.
Nothing is lost, nothing is moved, and nothing else is changed.

Erasing goes down the document from division to division. Numbering is a walk
along each list, and what the walk counts makes no difference to a function
that forgets the numbers, so `map_walk` settles the lists. Content is the same
tree with other numbers, which `Inline.mapNumbers_numberFrom` has settled.

## Main definitions

* `Paragraph.erase`, `FormalItem.erase`: Items without their numbers.
* `Section.erase`: A section without numbers and without its list of footnotes.
* `Document.erase`: A document without what numbering added.

## Theorems

* `Draft.erase_numberSiblings`: Siblings are given back if each of them is.
* `Draft.Document.enumerate_erase`: Numbering preserves the draft.
-/

namespace Manuscript

/-! ### Documents without numbers -/

def Paragraph.erase (p : Paragraph) : Draft.Paragraph :=
  ⟨p.id?, p.type?, p.content.map (ParagraphItem.mapNumbers fun _ => ())⟩

def FormalItem.erase (f : FormalItem) : Draft.FormalItem :=
  ⟨f.title, f.kind, f.id?, f.type?, f.content.mapNumbers fun _ => ()⟩

def Block.erase : Block → Draft.Block
  | .paragraph p => .paragraph p.erase
  | .formalItem f => .formalItem f.erase

def Subsection.erase (s : Subsection) : Draft.Subsection :=
  ⟨s.title, s.id?, s.type?, s.content.map Block.erase⟩

def SectionBody.erase : SectionBody → Draft.SectionBody
  | .content blocks => .content (blocks.map Block.erase)
  | .subsections divisions => .subsections (divisions.map Subsection.erase)

/-- A section without its number and without the footnotes it lists. Those in its body stay,
    without their numbers. -/
def Section.erase (s : Section) : Draft.Section :=
  ⟨s.title, s.id?, s.type?, s.tableOfContents, s.body.erase⟩

def Part.erase (p : Part) : Draft.Part :=
  ⟨p.title, p.id?, p.type?, p.tableOfContents, p.sections.map Section.erase⟩

def Body.erase : Body → Draft.Body
  | .parts divisions => .parts (divisions.map Part.erase)
  | .sections divisions => .sections (divisions.map Section.erase)

/-- A document without its numbers and without its index. -/
def Document.erase (doc : Document) : Draft.Document :=
  ⟨doc.title, doc.tableOfContents, doc.style?, doc.body.erase⟩

/-! ### The draft comes back -/

namespace Draft

theorem Paragraph.erase_numberFrom (p : Paragraph) (number : ParagraphNumber) (k : Nat) :
    (p.numberFrom number k).erase = p := by
  unfold Paragraph.numberFrom Manuscript.Paragraph.erase
  rw [mapNumbers_numberParagraphItems]

theorem FormalItem.erase_numberFrom (f : FormalItem) (number : FormalItemNumber) (k : Nat) :
    (f.numberFrom number k).erase = f := by
  unfold FormalItem.numberFrom Manuscript.FormalItem.erase
  rw [f.content.mapNumbers_numberFrom]

theorem Block.erase_numberFrom (scope : Scope) (c : BlockCount) (b : Block) :
    (b.numberFrom scope c).erase = b := by
  cases b with
  | paragraph p => exact congrArg Block.paragraph (p.erase_numberFrom _ c.notes)
  | formalItem f => exact congrArg Block.formalItem (f.erase_numberFrom _ c.notes)

theorem erase_numberBlocks (scope : Scope) (k : Nat) (blocks : List Block) :
    (numberBlocks scope k blocks).map Manuscript.Block.erase = blocks := by
  rw [numberBlocks, map_walk (Block.erase_numberFrom scope), List.map_id']

/-- Siblings are given back if each of them is, at whatever place and count. -/
theorem erase_numberSiblings {α β : Type} {held : α → List (Footnote Unit)}
    {f : Position → Nat → α → β} {erase : β → α} (h : ∀ p k x, erase (f p k x) = x) (k : Nat)
    (xs : List α) : (numberSiblings held f 0 k xs).map erase = xs := by
  unfold numberSiblings
  exact (map_walk (fun c x => h (.ofIndex c.1) c.2 x) (0, k) xs).trans (List.map_id' xs)

theorem Subsection.erase_numberFrom (number : SubsectionNumber) (k : Nat) (s : Subsection) :
    (s.numberFrom number k).erase = s := by
  unfold Subsection.numberFrom Manuscript.Subsection.erase
  rw [erase_numberBlocks]

theorem SectionBody.erase_numberFrom (number : SectionNumber) (k : Nat) (body : SectionBody) :
    (body.numberFrom number k).erase = body := by
  cases body with
  | content blocks => exact congrArg SectionBody.content (erase_numberBlocks _ k blocks)
  | subsections divisions =>
      exact congrArg SectionBody.subsections
        (erase_numberSiblings (fun p => Subsection.erase_numberFrom (number.subsectionAt p)) k
          divisions)

theorem Section.erase_numberFrom (number : SectionNumber) (k : Nat) (s : Section) :
    (s.numberFrom number k).erase = s := by
  unfold Section.numberFrom Manuscript.Section.erase
  rw [s.body.erase_numberFrom]

theorem erase_numberSections (part? : Option PartNumber) (k : Nat) (divisions : List Section) :
    (numberSections part? k divisions).map Manuscript.Section.erase = divisions :=
  erase_numberSiblings (fun p => Section.erase_numberFrom ⟨part?, p⟩) k divisions

theorem Part.erase_numberFrom (number : PartNumber) (k : Nat) (p : Part) :
    (p.numberFrom number k).erase = p := by
  unfold Part.numberFrom Manuscript.Part.erase
  rw [erase_numberSections]

theorem Body.erase_numberFrom (k : Nat) (body : Body) : (body.numberFrom k).erase = body := by
  cases body with
  | parts divisions =>
      exact congrArg Body.parts
        (erase_numberSiblings (fun p => Part.erase_numberFrom ⟨p⟩) k divisions)
  | sections divisions => exact congrArg Body.sections (erase_numberSections none k divisions)

/-- A numbered draft, without what numbering added, is the draft. -/
theorem Document.enumerate_erase {d : Document} {doc : Manuscript.Document}
    (h : d.enumerate = .ok doc) : doc.erase = d := by
  rw [(enumerate_eq_ok_iff.mp h).2, Manuscript.Document.erase, numbered, d.body.erase_numberFrom]

theorem Document.enumerate_handbook_erase : ∃ doc, handbook.enumerate = .ok doc ∧
    doc.footnotes.length = 3 ∧ doc.erase = handbook := by
  have hnotes : handbook.numbered.notes.length = 3 := by decide +kernel
  rcases enumerate_handbook with ⟨doc, h⟩
  refine ⟨doc, h, ?_, enumerate_erase h⟩
  rw [Manuscript.Document.footnotes, Index.footnotes_of_gather (enumerate_eq_ok_iff.mp h).1,
    Footnotes.toList_extend]
  exact hnotes

end Draft

end Manuscript
