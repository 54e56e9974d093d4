import Manuscript.Proofs.Numbering.Footnotes

/-!
# Footnotes of Sections

Each section of a numbered document lists its footnotes. The list is cut out of
the one sequence of the document, from where the sequence ended before the
section to where it ended after its body. It is shown here that the cut falls
where the section does: the list holds what stands in the body, at whatever
depth, and nothing else.

Since all footnotes of a document stand in its sections, the lists make up the
sequence when they are put one after the other. The numbers in the sequence
grow, so no footnote is in the lists of two sections.

## Theorems

* `NumberedInOrder.pairwise`: Numbers grow along a list that is numbered in order.
* `place_unique`: What is listed at two places is listed out of order.
* `Draft.Document.footnotes_eq_notes`: A section lists the footnotes in its body.
* `Draft.Document.enumerate_sectionFootnotes`: The lists divide the sequence.
-/

namespace Manuscript

theorem NumberedInOrder.pairwise {notes : List NumberedNote} (h : NumberedInOrder notes) :
    notes.Pairwise fun a b => a.number < b.number := by
  have hgrow : (notes.map Footnote.number).Pairwise (· < ·) := by
    rw [h]
    exact List.pairwise_lt_range
  exact List.pairwise_map.mp hgrow

/-- Where lists one after the other are ordered, no element is in the lists of two places. -/
theorem place_unique {α β : Type} {R : β → β → Prop} (hirrefl : ∀ b, ¬R b b) {xs : List α}
    {f : α → List β} (h : (xs.flatMap f).Pairwise R) {i j : Nat} {x y : α} (hi : xs[i]? = some x)
    (hj : xs[j]? = some y) {b : β} (hx : b ∈ f x) (hy : b ∈ f y) : i = j := by
  -- Everything listed at an earlier place comes before everything listed at a later one.
  have hacross : ∀ {m n : Nat} {v w : α}, m < n → xs[m]? = some v → xs[n]? = some w →
      b ∈ f v → b ∈ f w → False := by
    intro m n v w hmn hm hn hv hw
    rcases List.getElem?_eq_some_iff.mp hm with ⟨hlm, rfl⟩
    rcases List.getElem?_eq_some_iff.mp hn with ⟨hln, rfl⟩
    have hpairs := List.pairwise_iff_getElem.mp (List.pairwise_flatMap.mp h).2
    exact hirrefl b (hpairs m n hlm hln hmn b hv b hw)
  rcases Nat.lt_trichotomy i j with hlt | heq | hgt
  · exact (hacross hlt hi hj hx hy).elim
  · exact heq
  · exact (hacross hgt hj hi hy hx).elim

namespace Draft

variable {d : Document} {doc : Manuscript.Document}

theorem Document.footnotes_eq_notes (h : d.enumerate = .ok doc) {s : Manuscript.Section}
    (hs : s ∈ doc.sections) : s.footnotes = s.notes := by
  rcases exists_numberFrom h hs with ⟨number, k, source, rfl⟩
  rfl

/-- The numbers in a section go up by one from some number on. -/
theorem Document.exists_range_of_section (h : d.enumerate = .ok doc) {s : Manuscript.Section}
    (hs : s ∈ doc.sections) :
    ∃ k, s.notes.map Footnote.number = List.range' k s.notes.length := by
  rcases exists_numberFrom h hs with ⟨number, k, source, rfl⟩
  have hnumber := source.number_notes number k
  exact ⟨k, by rw [length_of_number hnumber, hnumber]⟩

theorem Document.flatMap_footnotes (h : d.enumerate = .ok doc) :
    doc.sections.flatMap Section.footnotes = doc.footnotes := by
  have hsections : doc.sections.map Section.footnotes =
      doc.sections.map Manuscript.Section.notes :=
    List.map_congr_left fun s hs => footnotes_eq_notes h hs
  rw [← notes_eq h, doc.notes_eq_flatMap, List.flatMap_def, hsections, ← List.flatMap_def]

theorem Document.pairwise_footnotes (h : d.enumerate = .ok doc) :
    doc.footnotes.Pairwise fun a b => a.number < b.number := by
  have hbody : doc.notes = d.numbered.notes := by
    rw [(enumerate_eq_ok_iff.mp h).2]
    rfl
  rw [← notes_eq h, hbody]
  exact d.numberedInOrder.pairwise

/-- Each section lists the footnotes in it, with consecutive numbers. The lists of all sections
    make up the footnotes of the document, and each footnote is in the list of one section. -/
theorem Document.enumerate_sectionFootnotes (h : d.enumerate = .ok doc) :
    (∀ s ∈ doc.sections, s.footnotes = s.notes ∧
      ∃ k, s.footnotes.map Footnote.number = List.range' k s.footnotes.length) ∧
      doc.sections.flatMap Section.footnotes = doc.footnotes ∧
      ∀ note ∈ doc.footnotes, ∃ i,
        (∃ s, doc.sections[i]? = some s ∧ note ∈ s.footnotes) ∧
        ∀ (j : Nat) (s : Manuscript.Section), doc.sections[j]? = some s → note ∈ s.footnotes →
          j = i := by
  have hall := flatMap_footnotes h
  have hgrow := pairwise_footnotes h
  rw [← hall] at hgrow
  refine ⟨?_, hall, ?_⟩
  · intro s hs
    rw [footnotes_eq_notes h hs]
    exact ⟨rfl, exists_range_of_section h hs⟩
  · intro note hnote
    rw [← hall] at hnote
    rcases List.mem_flatMap.mp hnote with ⟨s, hs, hmem⟩
    rcases List.mem_iff_getElem?.mp hs with ⟨i, hi⟩
    refine ⟨i, ⟨s, hi, hmem⟩, fun j t hj ht => ?_⟩
    exact place_unique (fun n => Nat.lt_irrefl n.number) hgrow hj hi ht hmem

theorem Document.enumerate_handbook_sectionFootnotes : ∃ doc, handbook.enumerate = .ok doc ∧
    doc.sections.map (fun s => s.footnotes.map Footnote.number) = [[0, 1], [2], []] ∧
    doc.sections.flatMap Section.footnotes = doc.footnotes := by
  -- The sections are those of the numbered body, whatever the index holds.
  have hnumbers : (Manuscript.Document.sections
      ⟨"Handbook", true, none, handbook.numbered, .empty⟩).map
        (fun s => s.footnotes.map Footnote.number) = [[0, 1], [2], []] := by
    decide +kernel
  rcases enumerate_handbook with ⟨doc, h⟩
  refine ⟨doc, h, ?_, (enumerate_sectionFootnotes h).2.1⟩
  rw [(enumerate_eq_ok_iff.mp h).2]
  exact hnumbers

end Draft

end Manuscript
