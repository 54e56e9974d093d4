import Manuscript.Proofs.Navigation.Lookup
import Manuscript.Proofs.Numbering.Footnotes
import Manuscript.Proofs.Numbering.ReadingOrder

/-!
# Lookups in a Numbered Draft

What numbering builds stands in a row, on every level from parts down to
subsections, and so the elements of a numbered draft are found under the
numbers that they carry. No other number finds anything, whatever its
components are and whichever shape it has.

Lists of parts, of sections and of subsections have to be shorter than the
limit of positions. In a longer list the last elements share a position, and
only the first of them would be found.

## Main definitions

* `Draft.Document.HeadingsBelowLimit`: Lists of headings are shorter than the limit.

## Theorems

* `Draft.SectionBody.dividedInRow_numberFrom`: Subsections are built in a row.
* `Draft.Document.enumerate_find`: What is found under a number.
-/

namespace Manuscript

namespace Draft

/-- The subsections; a section that holds blocks has none. -/
def Section.subsections (s : Section) : List Subsection :=
  match s.body with
  | .content _ => []
  | .subsections divisions => divisions

/-- Lists of parts, of sections and of subsections are shorter than the limit. -/
def Document.HeadingsBelowLimit (d : Document) : Prop :=
  d.SegmentsBelowLimit ∧ ∀ s ∈ d.sections, s.subsections.length < Position.limit

instance : DecidablePred Document.HeadingsBelowLimit := fun _ =>
  inferInstanceAs (Decidable (_ ∧ _))

theorem Section.dividedInRow_numberFrom (number : SectionNumber) (k : Nat) {s : Section}
    (hl : s.subsections.length < Position.limit) : (s.numberFrom number k).DividedInRow := by
  unfold Section.subsections at hl
  cases hb : s.body with
  | content blocks =>
      have hnone : (s.numberFrom number k).subsections = [] := by
        simp only [Manuscript.Section.subsections, Section.numberFrom, hb, SectionBody.numberFrom]
      constructor
      · rw [hnone]
        decide
      · intro i t ht
        rw [hnone] at ht
        cases ht
  | subsections divisions =>
      have hbuilt : (s.numberFrom number k).subsections = numberSubsections number k divisions := by
        simp only [Manuscript.Section.subsections, Section.numberFrom, hb, SectionBody.numberFrom]
      rw [hb] at hl
      constructor
      · rw [hbuilt, numberSubsections, length_numberSiblings]
        exact hl
      · intro i t ht
        rw [hbuilt] at ht
        rcases getElem?_numberSiblings ht with ⟨_, _, _, _, rfl⟩
        rfl

variable {d : Document} {doc : Manuscript.Document}

theorem Document.dividedInRow_of_enumerate (hd : d.HeadingsBelowLimit) (h : d.enumerate = .ok doc)
    {s : Manuscript.Section} (hs : s ∈ doc.sections) : s.DividedInRow := by
  rcases exists_source h hs with ⟨source, hsource, number, k, rfl⟩
  exact Section.dividedInRow_numberFrom number k (hd.2 source hsource)

theorem Document.sectionsInRow_of_enumerate (hd : d.SegmentsBelowLimit)
    (h : d.enumerate = .ok doc) {p : Manuscript.Part} (hp : p ∈ doc.parts) :
    SectionsInRow (some p.number) p.sections := by
  have hrow := inRow_of_enumerate hd h
  unfold Manuscript.Document.parts at hp
  cases hb : doc.body with
  | parts divisions =>
      rw [hb] at hrow hp
      exact PartsInRow.sections hrow p hp
  | sections divisions =>
      rw [hb] at hp
      exact absurd hp List.not_mem_nil

/-- A number finds an element of a numbered draft exactly if the element carries it: in the whole
    document, in a part and in a section. A number finds a segment exactly if it is among the
    segments, and one that finds none leads nowhere. -/
theorem Document.enumerate_find (hd : d.HeadingsBelowLimit) (h : d.enumerate = .ok doc) :
    (∀ n p, doc.part? n = some p ↔ p ∈ doc.parts ∧ p.number = n) ∧
      (∀ n s, doc.section? n = some s ↔ s ∈ doc.sections ∧ s.number = n) ∧
      (∀ p ∈ doc.parts, ∀ n s, p.section? n = some s ↔ s ∈ p.sections ∧ s.number = n) ∧
      (∀ s ∈ doc.sections, ∀ n t, s.subsection? n = some t ↔ t ∈ s.subsections ∧ t.number = n) ∧
      (∀ n g, doc.segment? n = some g ↔ doc.Contains g ∧ g.number = n) ∧
      (∀ n, (doc.segment? n).isSome ↔ n ∈ doc.segments) ∧
      ∀ n, doc.segment? n = none →
        doc.next? n = none ∧ doc.previous? n = none ∧ doc.up? n = none := by
  have hrow := inRow_of_enumerate hd.1 h
  refine ⟨fun n p => Manuscript.Document.part?_eq_some_iff hrow,
    fun n s => Manuscript.Document.section?_eq_some_iff hrow, ?_, ?_,
    fun n g => Manuscript.Document.segment?_eq_some_iff hrow,
    Manuscript.Document.isSome_segment? hrow,
    fun n => Manuscript.Document.neighbours_of_segment?_eq_none⟩
  · intro p hp n s
    exact Part.section?_eq_some_iff (sectionsInRow_of_enumerate hd.1 h hp)
  · intro s hs n t
    exact Section.subsection?_eq_some_iff (dividedInRow_of_enumerate hd h hs)

theorem Document.enumerate_handbook_find : handbook.HeadingsBelowLimit ∧
    ∃ doc, handbook.enumerate = .ok doc ∧
      (∃ s t, doc.section? ⟨some ⟨.ofIndex 0⟩, .ofIndex 1⟩ = some s ∧
        s.subsection? ⟨s.number, .ofIndex 0⟩ = some t ∧ t.title = "Writing") ∧
      doc.section? ⟨none, .ofIndex 0⟩ = none ∧
      doc.next? (.ofSection ⟨none, .ofIndex 0⟩) = none := by
  have hlimit : handbook.HeadingsBelowLimit := by decide
  -- The sections are those of the numbered body, whatever the index holds.
  have hwriting : ∃ s ∈ Manuscript.Document.sections
      ⟨"Handbook", true, none, handbook.numbered, .empty⟩,
      s.number = ⟨some ⟨.ofIndex 0⟩, .ofIndex 1⟩ ∧
        ∃ t ∈ s.subsections, t.number = ⟨s.number, .ofIndex 0⟩ ∧ t.title = "Writing" := by
    decide +kernel
  have hshape : ∀ s ∈ Manuscript.Document.sections
      ⟨"Handbook", true, none, handbook.numbered, .empty⟩,
      s.number ≠ ⟨none, .ofIndex 0⟩ := by
    decide +kernel
  rcases enumerate_handbook with ⟨doc, h⟩
  rcases enumerate_find hlimit h with ⟨-, hsection, -, hsubsection, -, -, hnone⟩
  have hsections : doc.sections = Manuscript.Document.sections
      ⟨"Handbook", true, none, handbook.numbered, .empty⟩ := by
    rw [(enumerate_eq_ok_iff.mp h).2]
    rfl
  rw [← hsections] at hwriting hshape
  have hmissing : doc.section? ⟨none, .ofIndex 0⟩ = none := by
    rw [Option.eq_none_iff_forall_ne_some]
    intro s hs
    rcases (hsection _ s).mp hs with ⟨hmem, hnumber⟩
    exact hshape s hmem hnumber
  refine ⟨hlimit, doc, h, ?_, hmissing, (hnone _ ?_).1⟩
  · rcases hwriting with ⟨s, hs, hnumber, t, ht, hinner, htitle⟩
    exact ⟨s, t, (hsection _ s).mpr ⟨hs, hnumber⟩, (hsubsection s hs _ t).mpr ⟨ht, hinner⟩, htitle⟩
  · rw [Manuscript.Document.segment?, hmissing]
    rfl

end Draft

end Manuscript
