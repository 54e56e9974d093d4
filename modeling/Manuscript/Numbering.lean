import Manuscript.Draft
import Manuscript.Numbered.Document

/-!
# Numbering

Turning a draft into a numbered document. The draft is walked from the front,
and each element gets its number when it is reached: parts, sections and
subsections by their place among their siblings, paragraphs and formal items
by their place among those of their class in the same scope.

Footnotes are numbered when they are finished, after the footnotes within
them. An element is filed in the index when it is finished, so a section is
filed after what it holds and a part after its sections. The first identifier
that is claimed twice ends the walk, and no document comes out.

The index is passed along from element to element. Content cannot fail and
touches nothing but the footnotes, so its functions pass those alone.

## Main definitions

* `Inline.enumerate`, `Table.enumerate`: Numbering of content.
* `Draft.Section.enumerate`: Numbering of a section and what it holds.
* `Draft.Document.enumerate`: Numbering of a whole draft.
-/

namespace Manuscript

mutual

/-- Numbers the footnotes of a piece of inline content. -/
def Inline.enumerate : Inline Unit → Footnotes → Inline FootnoteNumber × Footnotes
  | .text t, notes => (.text t, notes)
  | .term t, notes => (.term t, notes)
  | .link l, notes => (.link l, notes)
  | .image i, notes => (.image i, notes)
  | .list l, notes =>
    let (l, notes) := l.enumerate notes
    (.list l, notes)
  | .footnote n, notes =>
    let (n, notes) := n.enumerate notes
    (.footnote n, notes)
  | .verbatim v, notes => (.verbatim v, notes)

/-- Numbers the footnotes of a list. -/
def ItemList.enumerate : ItemList Unit → Footnotes → ItemList FootnoteNumber × Footnotes
  | ⟨style, type?, items⟩, notes =>
    let (items, notes) := enumerateItems items notes
    (⟨style, type?, items⟩, notes)

/-- Numbers the footnotes of list items, one item after the other. -/
def enumerateItems :
    List (ListItem Unit) → Footnotes → List (ListItem FootnoteNumber) × Footnotes
  | [], notes => ([], notes)
  | item :: rest, notes =>
    let (item, notes) := item.enumerate notes
    let (rest, notes) := enumerateItems rest notes
    (item :: rest, notes)

/-- Numbers the footnotes of a list item. -/
def ListItem.enumerate : ListItem Unit → Footnotes → ListItem FootnoteNumber × Footnotes
  | ⟨type?, content⟩, notes =>
    let (content, notes) := enumerateInlines content notes
    (⟨type?, content⟩, notes)

/-- Numbers the footnotes within a footnote, then the footnote itself. -/
def Footnote.enumerate : Footnote Unit → Footnotes → NumberedNote × Footnotes
  | ⟨_, content⟩, notes =>
    let (content, notes) := enumerateInlines content notes
    notes.append content

/-- Numbers the footnotes of inline content, piece by piece. -/
def enumerateInlines :
    List (Inline Unit) → Footnotes → List (Inline FootnoteNumber) × Footnotes
  | [], notes => ([], notes)
  | c :: rest, notes =>
    let (c, notes) := c.enumerate notes
    let (rest, notes) := enumerateInlines rest notes
    (c :: rest, notes)

end

/-- Numbers the footnotes of table cells, one cell after the other. -/
def enumerateRow : Row Unit → Footnotes → Row FootnoteNumber × Footnotes
  | [], notes => ([], notes)
  | cell :: rest, notes =>
    let (cell, notes) := enumerateInlines cell notes
    let (rest, notes) := enumerateRow rest notes
    (cell :: rest, notes)

/-- Numbers the footnotes of table rows, one row after the other. -/
def enumerateRows : List (Row Unit) → Footnotes → List (Row FootnoteNumber) × Footnotes
  | [], notes => ([], notes)
  | row :: rest, notes =>
    let (row, notes) := enumerateRow row notes
    let (rest, notes) := enumerateRows rest notes
    (row :: rest, notes)

/-- Numbers the footnotes of a table. -/
def Table.enumerate (t : Table Unit) (notes : Footnotes) : Table FootnoteNumber × Footnotes :=
  let (body, notes) := enumerateRows t.body notes
  (⟨t.summary, t.head?, body⟩, notes)

/-- Numbers the footnotes of a piece of a paragraph. -/
def ParagraphItem.enumerate :
    ParagraphItem Unit → Footnotes → ParagraphItem FootnoteNumber × Footnotes
  | .inline c, notes =>
    let (c, notes) := c.enumerate notes
    (.inline c, notes)
  | .table t, notes =>
    let (t, notes) := t.enumerate notes
    (.table t, notes)
  | .listing kind, notes => (.listing kind, notes)

/-- Numbers the footnotes of a paragraph, piece by piece. -/
def enumerateParagraphItems :
    List (ParagraphItem Unit) → Footnotes → List (ParagraphItem FootnoteNumber) × Footnotes
  | [], notes => ([], notes)
  | c :: rest, notes =>
    let (c, notes) := c.enumerate notes
    let (rest, notes) := enumerateParagraphItems rest notes
    (c :: rest, notes)

/-- Numbers the footnotes of a formal item's content. -/
def FormalContent.enumerate :
    FormalContent Unit → Footnotes → FormalContent FootnoteNumber × Footnotes
  | .listing kind, notes => (.listing kind, notes)
  | .image i, notes => (.image i, notes)
  | .list l, notes =>
    let (l, notes) := l.enumerate notes
    (.list l, notes)
  | .table t, notes =>
    let (t, notes) := t.enumerate notes
    (.table t, notes)
  | .verbatim v, notes => (.verbatim v, notes)

namespace Index

/-- Files an element under its identifier, if it carries one. -/
def file (index : Index) (element : Element) : Except DuplicateIdentifier Index := do
  return { index with identifiers := ← index.identifiers.defineIfAny element }

end Index

namespace Draft

/-- Numbers a paragraph and files it. -/
def Paragraph.enumerate (p : Paragraph) (number : ParagraphNumber) (index : Index) :
    Except DuplicateIdentifier (Manuscript.Paragraph × Index) := do
  let (content, notes) := enumerateParagraphItems p.content index.footnotes
  let numbered : Manuscript.Paragraph := ⟨number, p.id?, p.type?, content⟩
  let index ← { index with footnotes := notes }.file (.paragraph numbered)
  return (numbered, index)

/-- Numbers a formal item and files it, first under its kind and then under its identifier. -/
def FormalItem.enumerate (f : FormalItem) (number : FormalItemNumber) (index : Index) :
    Except DuplicateIdentifier (Manuscript.FormalItem × Index) := do
  let (content, notes) := f.content.enumerate index.footnotes
  let numbered : Manuscript.FormalItem := ⟨number, f.title, f.kind, f.id?, f.type?, content⟩
  let filed := index.formalItems.insert f.kind numbered
  let index ← { index with footnotes := notes, formalItems := filed }.file (.formalItem numbered)
  return (numbered, index)

/-- Numbers the blocks of a scope. The next paragraph is at position `p` and the next formal item
    at position `f`; the two classes are counted apart. -/
def enumerateBlocks (scope : Scope) (p f : Position) :
    List Block → Index → Except DuplicateIdentifier (List Manuscript.Block × Index)
  | [], index => .ok ([], index)
  | .paragraph x :: rest, index => do
    let (x, index) ← x.enumerate (scope.paragraph p) index
    let (rest, index) ← enumerateBlocks scope p.next f rest index
    return (.paragraph x :: rest, index)
  | .formalItem x :: rest, index => do
    let (x, index) ← x.enumerate (scope.formalItem f) index
    let (rest, index) ← enumerateBlocks scope p f.next rest index
    return (.formalItem x :: rest, index)

/-- Numbers a subsection and files it after its blocks. -/
def Subsection.enumerate (s : Subsection) (number : SubsectionNumber) (index : Index) :
    Except DuplicateIdentifier (Manuscript.Subsection × Index) := do
  let (content, index) ← enumerateBlocks (.ofSubsection number) .first .first s.content index
  let numbered : Manuscript.Subsection := ⟨number, s.title, s.id?, s.type?, content⟩
  let index ← index.file (.subsect numbered)
  return (numbered, index)

/-- Numbers subsections from position `next` on. -/
def enumerateSubsections (parent : SectionNumber) (next : Position) :
    List Subsection → Index → Except DuplicateIdentifier (List Manuscript.Subsection × Index)
  | [], index => .ok ([], index)
  | s :: rest, index => do
    let (s, index) ← s.enumerate (parent.subsectionAt next) index
    let (rest, index) ← enumerateSubsections parent next.next rest index
    return (s :: rest, index)

/-- Numbers the body of a section. -/
def SectionBody.enumerate (body : SectionBody) (number : SectionNumber) (index : Index) :
    Except DuplicateIdentifier (Manuscript.SectionBody × Index) :=
  match body with
  | .content blocks => do
    let (numbered, index) ← enumerateBlocks (.ofSection number) .first .first blocks index
    return (.content numbered, index)
  | .subsections divisions => do
    let (numbered, index) ← enumerateSubsections number .first divisions index
    return (.subsections numbered, index)

/-- Numbers a section and files it after its body. The footnotes of the section are those that
    were finished in the meantime. -/
def Section.enumerate (s : Section) (number : SectionNumber) (index : Index) :
    Except DuplicateIdentifier (Manuscript.Section × Index) := do
  let mark := index.footnotes.size
  let (body, index) ← s.body.enumerate number index
  let numbered : Manuscript.Section :=
    ⟨number, s.title, s.id?, s.type?, s.tableOfContents, body, index.footnotes.since mark⟩
  let index ← index.file (.sect numbered)
  return (numbered, index)

/-- Numbers sections from position `next` on, within a part if there is one. -/
def enumerateSections (part? : Option PartNumber) (next : Position) :
    List Section → Index → Except DuplicateIdentifier (List Manuscript.Section × Index)
  | [], index => .ok ([], index)
  | s :: rest, index => do
    let (s, index) ← s.enumerate ⟨part?, next⟩ index
    let (rest, index) ← enumerateSections part? next.next rest index
    return (s :: rest, index)

/-- Numbers a part and files it after its sections. -/
def Part.enumerate (p : Part) (number : PartNumber) (index : Index) :
    Except DuplicateIdentifier (Manuscript.Part × Index) := do
  let (sections, index) ← enumerateSections (some number) .first p.sections index
  let numbered : Manuscript.Part :=
    ⟨number, p.title, p.id?, p.type?, p.tableOfContents, sections⟩
  let index ← index.file (.part numbered)
  return (numbered, index)

/-- Numbers parts from position `next` on. -/
def enumerateParts (next : Position) :
    List Part → Index → Except DuplicateIdentifier (List Manuscript.Part × Index)
  | [], index => .ok ([], index)
  | p :: rest, index => do
    let (p, index) ← p.enumerate ⟨next⟩ index
    let (rest, index) ← enumerateParts next.next rest index
    return (p :: rest, index)

/-- Numbers the body of a document. -/
def Body.enumerate (body : Body) (index : Index) :
    Except DuplicateIdentifier (Manuscript.Body × Index) :=
  match body with
  | .parts divisions => do
    let (numbered, index) ← enumerateParts .first divisions index
    return (.parts numbered, index)
  | .sections divisions => do
    let (numbered, index) ← enumerateSections none .first divisions index
    return (.sections numbered, index)

/-- Numbers a draft, starting with an empty index. -/
def Document.enumerate (d : Document) : Except DuplicateIdentifier Manuscript.Document := do
  let (body, index) ← d.body.enumerate .empty
  return ⟨d.title, d.tableOfContents, d.style?, body, index⟩

end Draft

end Manuscript
