import Manuscript.Proofs.Numbering.SectionFootnotes
import Manuscript.Report

/-!
# The Outline of a Report

The outline is a forest of entries. Read in pre-order, every entry before those
within it, it is a list, and that list is compared with the headings of the
document: its parts, sections and subsections as a reader meets them.

The document lists elements in another order, in which a section comes after
what it holds. Which elements are headings is a matter of their class, so the
two lists of headings have the same members all the same.

Only entries of sections list footnotes. In pre-order they come one after the
other, so their lists make up the footnotes of the document.

## Main definitions

* `OutlineEntry.preOrder`: An entry and then the entries within it.
* `Report.entries`: The entries of the outline in pre-order.
* `Document.headings`: The headings of a document in reading order.
* `Label`: What an entry says of its heading.

## Theorems

* `OutlineEntry.preOrder_eq`: The pre-order of an entry by its children.
* `Report.map_label_entries`: The outline lists the headings and nothing else.
* `Document.mem_headings`: The headings are the elements of three classes.
* `Report.flatMap_footnotes_entries`: The outline lists the footnotes of all sections.
-/

namespace Manuscript

namespace OutlineEntry

mutual

/-- An entry and then the entries within it, each before those within it. -/
def preOrder : OutlineEntry → List OutlineEntry
  | ⟨element, number, title, id?, footnotes, children⟩ =>
    ⟨element, number, title, id?, footnotes, children⟩ :: preOrderAll children

def preOrderAll : List OutlineEntry → List OutlineEntry
  | [] => []
  | e :: rest => e.preOrder ++ preOrderAll rest

end

theorem preOrderAll_eq (entries : List OutlineEntry) :
    preOrderAll entries = entries.flatMap preOrder := by
  induction entries with
  | nil => rfl
  | cons e rest ih => rw [preOrderAll, ih, List.flatMap_cons]

theorem preOrder_eq (e : OutlineEntry) : e.preOrder = e :: e.children.flatMap preOrder := by
  cases e with
  | mk element number title id? footnotes children => rw [preOrder, preOrderAll_eq]

@[simp]
theorem preOrder_ofSubsection (s : Subsection) : (ofSubsection s).preOrder = [ofSubsection s] := by
  rw [preOrder_eq]
  rfl

@[simp]
theorem preOrder_ofSection (s : Section) :
    (ofSection s).preOrder = ofSection s :: s.subsections.map ofSubsection := by
  have hchildren : (s.subsections.map ofSubsection).flatMap preOrder =
      s.subsections.map ofSubsection := by
    rw [List.flatMap_map, List.map_eq_flatMap]
    simp only [preOrder_ofSubsection]
  rw [preOrder_eq]
  exact congrArg (ofSection s :: ·) hchildren

@[simp]
theorem preOrder_ofPart (p : Part) :
    (ofPart p).preOrder = ofPart p :: p.sections.flatMap fun s => (ofSection s).preOrder := by
  rw [preOrder_eq]
  simp [ofPart, List.flatMap_map]

end OutlineEntry

/-- The entries of the outline in pre-order. -/
def Report.entries (r : Report) : List OutlineEntry := r.outline.flatMap OutlineEntry.preOrder

/-! ### Headings -/

/-- Whether elements of the class are divisions with a title, which an outline lists. -/
def ElementClass.isHeading : ElementClass → Bool
  | part => true
  | sect => true
  | subsect => true
  | paragraph => false
  | formalItem => false

/-- A section and then its subsections. -/
def Section.headings (s : Section) : List Element := .sect s :: s.subsections.map .subsect

/-- A part and then the headings of its sections. -/
def Part.headings (p : Part) : List Element := .part p :: p.sections.flatMap Section.headings

/-- Every part, section and subsection of a document, each before those within it. -/
def Document.headings (doc : Document) : List Element :=
  match doc.body with
  | .parts divisions => divisions.flatMap Part.headings
  | .sections divisions => divisions.flatMap Section.headings

/-- What an entry says of its heading. -/
structure Label where
  elementClass : ElementClass
  number : String
  title? : Option String
  id? : Option String

def OutlineEntry.label (e : OutlineEntry) : Label := ⟨e.element, e.number, some e.title, e.id?⟩

def Element.label (e : Element) : Label := ⟨e.elementClass, e.number, e.title?, e.id?⟩

theorem OutlineEntry.label_eq_iff {e : OutlineEntry} {t : Element} :
    e.label = t.label ↔
      e.element = t.elementClass ∧ e.number = t.number ∧ some e.title = t.title? ∧
        e.id? = t.id? := by
  rw [label, Element.label, Label.mk.injEq]

theorem Section.map_label_preOrder (s : Section) :
    (OutlineEntry.ofSection s).preOrder.map OutlineEntry.label =
      s.headings.map Element.label := by
  rw [OutlineEntry.preOrder_ofSection, headings, List.map_cons, List.map_cons, List.map_map,
    List.map_map]
  rfl

theorem Part.map_label_preOrder (p : Part) :
    (OutlineEntry.ofPart p).preOrder.map OutlineEntry.label = p.headings.map Element.label := by
  rw [OutlineEntry.preOrder_ofPart, headings, List.map_cons, List.map_cons, List.map_flatMap,
    List.map_flatMap]
  exact congrArg (_ :: List.flatMap · p.sections) (funext Section.map_label_preOrder)

/-- In pre-order the outline lists the headings of the document, each with its class, number, title
    and identifier. -/
theorem Report.map_label_entries (doc : Document) :
    (ofDocument doc).entries.map OutlineEntry.label = doc.headings.map Element.label := by
  unfold entries ofDocument outlineOf Document.headings
  cases doc.body with
  | parts divisions =>
      simp only [List.flatMap_map, List.map_flatMap, Part.map_label_preOrder]
  | sections divisions =>
      simp only [List.flatMap_map, List.map_flatMap, Section.map_label_preOrder]

/-! ### Headings among the elements -/

theorem isHeading_element (b : Block) : b.element.elementClass.isHeading = false := by
  cases b with
  | paragraph p => rfl
  | formalItem f => rfl

/-- Headings are found division by division. -/
theorem mem_flatMap_headings {α : Type} {xs : List α} {headings elements : α → List Element}
    {e : Element}
    (h : ∀ x, e ∈ headings x ↔ e ∈ elements x ∧ e.elementClass.isHeading = true) :
    e ∈ xs.flatMap headings ↔ e ∈ xs.flatMap elements ∧ e.elementClass.isHeading = true := by
  simp only [List.mem_flatMap, h]
  constructor
  · rintro ⟨x, hx, he, hclass⟩
    exact ⟨⟨x, hx, he⟩, hclass⟩
  · rintro ⟨⟨x, hx, he⟩, hclass⟩
    exact ⟨x, hx, he, hclass⟩

theorem not_mem_blocks_of_isHeading {blocks : List Block} {e : Element}
    (h : e.elementClass.isHeading = true) : e ∉ blocks.map Block.element := by
  intro hmem
  rcases List.mem_map.mp hmem with ⟨b, -, rfl⟩
  rw [isHeading_element] at h
  cases h

theorem SectionBody.mem_subsections (body : SectionBody) {e : Element}
    (h : e.elementClass.isHeading = true) :
    e ∈ body.elements ↔
      ∃ divisions, body = .subsections divisions ∧ e ∈ divisions.map .subsect := by
  cases body with
  | content blocks => simp [elements, not_mem_blocks_of_isHeading h]
  | subsections divisions =>
      have hlast : ∀ s : Subsection, e ∈ s.elements ↔ e = .subsect s := by
        intro s
        rw [Subsection.elements, List.mem_append, List.mem_singleton]
        exact or_iff_right (not_mem_blocks_of_isHeading h)
      simp only [elements, List.mem_flatMap, hlast, subsections.injEq, exists_eq_left',
        List.mem_map]
      exact exists_congr fun s => and_congr_right fun _ => eq_comm

theorem Section.mem_headings (s : Section) {e : Element} :
    e ∈ s.headings ↔ e ∈ s.elements ∧ e.elementClass.isHeading = true := by
  have hsubsections : e ∈ s.subsections.map Element.subsect ↔
      ∃ divisions, s.body = .subsections divisions ∧ e ∈ divisions.map .subsect := by
    unfold subsections
    cases s.body <;> simp
  rw [headings, elements, List.mem_cons, List.mem_append, List.mem_singleton, hsubsections]
  by_cases hclass : e.elementClass.isHeading = true
  · rw [s.body.mem_subsections hclass, and_iff_left hclass, or_comm]
  · -- Neither the section nor a subsection is anything but a heading.
    refine ⟨?_, fun h => absurd h.2 hclass⟩
    rintro (rfl | ⟨divisions, -, he⟩)
    · exact absurd rfl hclass
    · rcases List.mem_map.mp he with ⟨t, -, rfl⟩
      exact absurd rfl hclass

theorem Part.mem_headings (p : Part) {e : Element} :
    e ∈ p.headings ↔ e ∈ p.elements ∧ e.elementClass.isHeading = true := by
  rw [headings, elements, List.mem_cons, List.mem_append, List.mem_singleton,
    mem_flatMap_headings fun s => Section.mem_headings s]
  constructor
  · rintro (rfl | ⟨he, hclass⟩)
    · exact ⟨.inr rfl, rfl⟩
    · exact ⟨.inl he, hclass⟩
  · rintro ⟨he | rfl, hclass⟩
    · exact .inr ⟨he, hclass⟩
    · exact .inl rfl

/-- The headings are those elements of the document whose class is that of a heading. -/
theorem Document.mem_headings (doc : Document) {e : Element} :
    e ∈ doc.headings ↔ e ∈ doc.elements ∧ e.elementClass.isHeading = true := by
  unfold headings elements
  cases doc.body with
  | parts divisions => exact mem_flatMap_headings fun p => p.mem_headings
  | sections divisions => exact mem_flatMap_headings fun s => s.mem_headings

/-! ### Footnotes in the outline -/

theorem Section.flatMap_footnotes_preOrder (s : Section) :
    (OutlineEntry.ofSection s).preOrder.flatMap (·.footnotes) =
      s.footnotes.map Footnote.number := by
  have hnone : (s.subsections.map OutlineEntry.ofSubsection).flatMap (·.footnotes) = [] := by
    simp [OutlineEntry.ofSubsection, List.flatMap_map]
  rw [OutlineEntry.preOrder_ofSection, List.flatMap_cons, hnone, List.append_nil]
  rfl

/-- The entries of sections list the numbers of their footnotes, and no other entry lists any. -/
theorem Report.flatMap_footnotes_entries (doc : Document) :
    (ofDocument doc).entries.flatMap (·.footnotes) =
      (doc.sections.flatMap Section.footnotes).map Footnote.number := by
  unfold entries ofDocument outlineOf Document.sections
  cases doc.body with
  | parts divisions =>
      have hpart : ∀ p : Part, (OutlineEntry.ofPart p).preOrder.flatMap (·.footnotes) =
          p.sections.flatMap fun s => s.footnotes.map Footnote.number := by
        intro p
        rw [OutlineEntry.preOrder_ofPart, List.flatMap_cons, List.flatMap_assoc]
        simp only [Section.flatMap_footnotes_preOrder]
        rfl
      simp only [List.flatMap_assoc, List.flatMap_map, List.map_flatMap, hpart]
  | sections divisions =>
      simp only [List.flatMap_assoc, List.flatMap_map, List.map_flatMap,
        Section.flatMap_footnotes_preOrder]

end Manuscript
