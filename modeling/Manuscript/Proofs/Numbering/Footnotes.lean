import Manuscript.Proofs.Numbering.Gathering

/-!
# Footnotes by Order

The footnotes of a numbered document, compared with those of its draft. Both
are listed in the same order, so the comparison is between two lists: without
numbers the one is the other, and the numbers count from zero.

The index is filled with the footnotes of the body, in the order of the list
and with nothing else. A footnote is therefore found in the index under its
own number, wherever in the document it stands.

That a footnote has a greater number than those within it is a fact about the
order alone. They stand right before it in the list, and the numbers grow.

## Main definitions

* `NumberedInOrder`: Footnotes that are numbered by their place in a list.

## Theorems

* `NumberedInOrder.number_lt`: Footnotes within a footnote have smaller numbers.
* `Draft.Body.erase_notes`: Numbering keeps every footnote in its place.
* `Body.postOrdered_notes`: The footnotes of a document follow what they hold.
* `Draft.Document.enumerate_footnotes`: The footnotes of a numbered draft.
-/

namespace Manuscript

/-! ### Lists that are numbered in order -/

/-- Each footnote of the list carries the number of its place. -/
def NumberedInOrder (notes : List NumberedNote) : Prop :=
  notes.map Footnote.number = List.range notes.length

namespace NumberedInOrder

variable {notes : List NumberedNote}

theorem number_eq (h : NumberedInOrder notes) {i : Nat} {n : NumberedNote}
    (hn : notes[i]? = some n) : n.number = i := by
  have hi : i < notes.length := (List.getElem?_eq_some_iff.mp hn).1
  have hplace : (notes.map Footnote.number)[i]? = some n.number := by
    rw [List.getElem?_map, hn]
    rfl
  rw [h, List.getElem?_range hi] at hplace
  exact (Option.some.inj hplace).symm

/-- The number of a footnote leads back to it. -/
theorem getElem?_number (h : NumberedInOrder notes) {n : NumberedNote} (hn : n ∈ notes) :
    notes[n.number]? = some n := by
  rcases List.mem_iff_getElem?.mp hn with ⟨i, hi⟩
  rw [h.number_eq hi]
  exact hi

/-- Where footnotes follow what they hold, a footnote has a greater number than all within it. -/
theorem number_lt (h : NumberedInOrder notes) (hpost : PostOrdered notes) {outer : NumberedNote}
    (houter : outer ∈ notes) {inner : NumberedNote}
    (hinner : inner ∈ notesOfInlines outer.content) : inner.number < outer.number := by
  have hstand : outer.notes <:+: notes := hpost outer houter
  -- A run of the list is numbered by a run of the numbers, so its numbers grow as well.
  have hgrow : (outer.notes.map Footnote.number).Pairwise (· < ·) := by
    refine List.Pairwise.sublist (hstand.sublist.map Footnote.number) ?_
    rw [h]
    exact List.pairwise_lt_range
  -- The footnote itself stands at the end of its list, after the one within it.
  rw [outer.notes_eq, List.map_append, List.pairwise_append] at hgrow
  exact hgrow.2.2 inner.number (List.mem_map_of_mem hinner) outer.number (List.mem_singleton_self _)

end NumberedInOrder

/-! ### Nothing is lost -/

theorem ParagraphItem.erase_notes (k : Nat) (c : ParagraphItem Unit) :
    (c.numberFrom k).notes.map Footnote.erase = c.notes := by
  have hmap := (c.numberFrom k).notes_mapNumbers fun _ => ()
  rw [c.mapNumbers_numberFrom] at hmap
  exact hmap.symm

theorem FormalContent.erase_notes (k : Nat) (c : FormalContent Unit) :
    (c.numberFrom k).notes.map Footnote.erase = c.notes := by
  have hmap := (c.numberFrom k).notes_mapNumbers fun _ => ()
  rw [c.mapNumbers_numberFrom] at hmap
  exact hmap.symm

/-- A walk keeps the footnotes of a list in their order if it keeps those of each element. -/
theorem erase_flatMap_walk {σ α β : Type} {next : σ → α → σ} {f : σ → α → β}
    {held : α → List (Footnote Unit)} {numbered : β → List NumberedNote}
    (hf : ∀ s x, (numbered (f s x)).map Footnote.erase = held x) (s : σ) (xs : List α) :
    ((walk next f s xs).flatMap numbered).map Footnote.erase = xs.flatMap held := by
  rw [List.map_flatMap]
  exact flatMap_walk (g := fun y => (numbered y).map Footnote.erase) hf s xs

namespace Draft

theorem Block.erase_notes (scope : Scope) (c : BlockCount) (b : Block) :
    (b.numberFrom scope c).notes.map Footnote.erase = b.notes := by
  cases b with
  | paragraph p => exact erase_flatMap_walk ParagraphItem.erase_notes c.notes p.content
  | formalItem f => exact f.content.erase_notes c.notes

theorem Subsection.erase_notes (number : SubsectionNumber) (k : Nat) (s : Subsection) :
    (s.numberFrom number k).notes.map Footnote.erase = s.notes :=
  erase_flatMap_walk (Block.erase_notes (.ofSubsection number)) ⟨0, 0, k⟩ s.content

/-- Siblings keep their footnotes if each of them does, at whatever place. -/
theorem erase_notesOfSiblings {α β : Type} {held : α → List (Footnote Unit)}
    {f : Position → Nat → α → β} {numbered : β → List NumberedNote}
    (hf : ∀ p k x, (numbered (f p k x)).map Footnote.erase = held x) (i k : Nat) (xs : List α) :
    ((numberSiblings held f i k xs).flatMap numbered).map Footnote.erase = xs.flatMap held := by
  unfold numberSiblings
  exact erase_flatMap_walk (fun c x => hf (.ofIndex c.1) c.2 x) (i, k) xs

theorem Section.erase_notes (number : SectionNumber) (k : Nat) (s : Section) :
    (s.numberFrom number k).notes.map Footnote.erase = s.notes := by
  unfold Section.notes Section.numberFrom Manuscript.Section.notes
  cases s.body with
  | content blocks =>
      exact erase_flatMap_walk (Block.erase_notes (.ofSection number)) ⟨0, 0, k⟩ blocks
  | subsections divisions =>
      exact erase_notesOfSiblings (fun p => Subsection.erase_notes (number.subsectionAt p)) 0 k
        divisions

theorem Part.erase_notes (number : PartNumber) (k : Nat) (p : Part) :
    (p.numberFrom number k).notes.map Footnote.erase = p.notes :=
  erase_notesOfSiblings (fun q => Section.erase_notes ⟨some number, q⟩) 0 k p.sections

theorem Body.erase_notes (k : Nat) (body : Body) :
    (body.numberFrom k).notes.map Footnote.erase = body.notes := by
  cases body with
  | parts divisions => exact erase_notesOfSiblings (fun p => Part.erase_notes ⟨p⟩) 0 k divisions
  | sections divisions =>
      exact erase_notesOfSiblings (fun p => Section.erase_notes ⟨none, p⟩) 0 k divisions

theorem Document.numberedInOrder (d : Document) : NumberedInOrder d.numbered.notes := by
  have hnumber := d.body.number_notes 0
  rw [NumberedInOrder, Document.numbered, length_of_number hnumber, hnumber, List.range_eq_range']

end Draft

/-! ### The order in the document -/

theorem Block.postOrdered_notes (b : Block) : PostOrdered b.notes := by
  cases b with
  | paragraph p => exact PostOrdered.flatMap fun c _ => c.postOrdered_notes
  | formalItem f => exact f.content.postOrdered_notes

theorem Section.postOrdered_notes (s : Section) : PostOrdered s.notes := by
  unfold Section.notes
  cases s.body with
  | content blocks => exact PostOrdered.flatMap fun b _ => b.postOrdered_notes
  | subsections divisions =>
      exact PostOrdered.flatMap fun t _ => PostOrdered.flatMap fun b _ => b.postOrdered_notes

theorem Body.postOrdered_notes (body : Body) : PostOrdered body.notes := by
  cases body with
  | parts divisions =>
      exact PostOrdered.flatMap fun p _ => PostOrdered.flatMap fun s _ => s.postOrdered_notes
  | sections divisions => exact PostOrdered.flatMap fun s _ => s.postOrdered_notes

/-! ### The footnotes of the index -/

theorem Document.notes_eq_flatMap (doc : Document) :
    doc.notes = doc.sections.flatMap Section.notes := by
  unfold Document.notes Document.sections
  cases doc.body with
  | parts divisions => exact List.flatMap_assoc.symm
  | sections divisions => rfl

namespace Draft

/-- The sections of a numbered document are those that numbering builds from the sections of the
    draft. -/
theorem Document.exists_source {d : Document} {doc : Manuscript.Document}
    (h : d.enumerate = .ok doc) {y : Manuscript.Section} (hy : y ∈ doc.sections) :
    ∃ s ∈ d.sections, ∃ number k, y = s.numberFrom number k := by
  have hbuilt : ∀ {part? k} {divisions : List Section}, y ∈ numberSections part? k divisions →
      ∃ s ∈ divisions, ∃ number k, y = s.numberFrom number k := by
    intro part? k divisions hmem
    rcases mem_numberSiblings hmem with ⟨s, hs, _, j, rfl⟩
    exact ⟨s, hs, _, j, rfl⟩
  rw [(enumerate_eq_ok_iff.mp h).2] at hy
  unfold Manuscript.Document.sections numbered Body.numberFrom at hy
  unfold Document.sections
  cases hb : d.body with
  | parts divisions =>
      rw [hb] at hy
      rcases List.mem_flatMap.mp hy with ⟨p, hp, hsp⟩
      rcases mem_numberSiblings hp with ⟨q, hq, _, j, rfl⟩
      rcases hbuilt hsp with ⟨s, hs, hsource⟩
      exact ⟨s, List.mem_flatMap.mpr ⟨q, hq, hs⟩, hsource⟩
  | sections divisions =>
      rw [hb] at hy
      exact hbuilt hy

theorem Document.exists_numberFrom {d : Document} {doc : Manuscript.Document}
    (h : d.enumerate = .ok doc) {y : Manuscript.Section} (hy : y ∈ doc.sections) :
    ∃ number k, ∃ s : Section, y = s.numberFrom number k := by
  rcases exists_source h hy with ⟨s, -, number, k, hsource⟩
  exact ⟨number, k, s, hsource⟩

/-- The index holds the footnotes of the body, in their order. -/
theorem Document.notes_eq {d : Document} {doc : Manuscript.Document}
    (h : d.enumerate = .ok doc) : doc.notes = doc.footnotes := by
  rcases enumerate_eq_ok_iff.mp h with ⟨hindex, hdoc⟩
  have hnotes : doc.notes = d.numbered.notes := by
    rw [hdoc]
    rfl
  rw [hnotes, Manuscript.Document.footnotes, Index.footnotes_of_gather hindex,
    Footnotes.toList_extend]
  rfl

/-- The footnotes of a numbered draft. The index holds those of the draft, numbered in their
    order, and it holds every footnote of the document under its own number. A footnote has a
    greater number than all within it. -/
theorem Document.enumerate_footnotes {d : Document} {doc : Manuscript.Document}
    (h : d.enumerate = .ok doc) :
    doc.index.footnotes.size = d.notes.length ∧
      (∀ (i : Nat) (n : Footnote Unit), d.notes[i]? = some n →
        ∃ note, doc.index.footnotes.get? i = some note ∧ note.erase = n ∧ note.number = i) ∧
      doc.footnotes = doc.notes ∧
      (∀ note ∈ doc.notes, doc.index.footnotes.get? note.number = some note) ∧
      (∀ s ∈ doc.sections, ∀ note ∈ s.footnotes,
        doc.index.footnotes.get? note.number = some note) ∧
      ∀ outer ∈ doc.notes, ∀ inner ∈ notesOfInlines outer.content,
        inner.number < outer.number := by
  have hbody : doc.notes = d.numbered.notes := by
    rw [(enumerate_eq_ok_iff.mp h).2]
    rfl
  have horder : NumberedInOrder doc.notes := by
    rw [hbody]
    exact d.numberedInOrder
  have herase : doc.notes.map Footnote.erase = d.notes := by
    rw [hbody]
    exact d.body.erase_notes 0
  have hget : ∀ i, doc.index.footnotes.get? i = doc.notes[i]? := by
    intro i
    rw [notes_eq h, Manuscript.Document.footnotes, Footnotes.toList, Array.getElem?_toList]
    rfl
  have hfind : ∀ note ∈ doc.notes, doc.index.footnotes.get? note.number = some note := by
    intro note hnote
    rw [hget]
    exact horder.getElem?_number hnote
  refine ⟨?_, ?_, (notes_eq h).symm, hfind, ?_, ?_⟩
  -- Erasing is a map, so the two lists are equally long and agree place by place.
  · rw [← herase, List.length_map, notes_eq h]
    exact Array.length_toList.symm
  · intro i n hn
    rw [← herase, List.getElem?_map, Option.map_eq_some_iff] at hn
    rcases hn with ⟨note, hnote, rfl⟩
    exact ⟨note, (hget i).trans hnote, rfl, horder.number_eq hnote⟩
  · intro y hy note hnote
    -- A section is built with the footnotes of its body, and these are in the document.
    rcases exists_numberFrom h hy with ⟨number, k, s, rfl⟩
    refine hfind note ?_
    rw [doc.notes_eq_flatMap]
    exact List.mem_flatMap.mpr ⟨_, hy, hnote⟩
  · intro outer houter inner hinner
    exact horder.number_lt doc.body.postOrdered_notes houter hinner

theorem Document.enumerate_handbook_footnotes : ∃ doc, handbook.enumerate = .ok doc ∧
    doc.index.footnotes.size = 3 ∧
    doc.footnotes.map (fun n => (notesOfInlines n.content).map Footnote.number) = [[], [0], []] ∧
    ∀ note ∈ doc.notes, doc.index.footnotes.get? note.number = some note := by
  have hwithin : handbook.numbered.notes.map
      (fun n => (notesOfInlines n.content).map Footnote.number) = [[], [0], []] := by
    decide +kernel
  rcases enumerate_handbook with ⟨doc, h⟩
  rcases enumerate_footnotes h with ⟨hsize, -, hnotes, hfind, -⟩
  refine ⟨doc, h, hsize, ?_, hfind⟩
  rw [hnotes, (enumerate_eq_ok_iff.mp h).2]
  exact hwithin

end Draft

end Manuscript
