import Manuscript.Proofs.Numbering.Kinds

/-!
# Families of Numbers

Sections, subsections, paragraphs and formal items are four families, and each
has its own numbers and its own order of them. Along a document the numbers of
a family go up, from every element to every later one and not only between
neighbours. No two elements of a family share a number, then.

That is not obvious where some sections hold their items directly and others
hold them in subsections. The numbers of these items have different shapes, and
the order of a family has to place one shape among the other. Comparison looks
at the section first, and sections are all of one shape.

## Main definitions

* `Increasing`: A list in strictly increasing order.
* `Document.subsections`, `Document.paragraphs`: Two of the families.

## Theorems

* `Increasing.nodup`: What increases does not repeat itself.
* `Document.increasing_subsections`: The numbers of subsections increase.
* `Draft.Document.enumerate_increasing`: The numbers of each family increase.
-/

namespace Manuscript

open Std

/-- Every element of the list comes before all that follow it. -/
def Increasing {α : Type} [Ord α] (xs : List α) : Prop := xs.Pairwise fun a b => compare a b = .lt

theorem Increasing.nodup {α : Type} [Ord α] [ReflOrd α] {xs : List α} (h : Increasing xs) :
    xs.Nodup := by
  refine List.Pairwise.imp ?_ h
  rintro a b hlt rfl
  -- An element does not come before itself.
  rw [ReflOrd.compare_self] at hlt
  cases hlt

/-- Every subsection of a document, in document order. -/
def Document.subsections (doc : Document) : List Subsection := doc.sections.flatMap (·.subsections)

/-- The block as a paragraph, if it is one. -/
def Block.paragraph? : Block → Option Paragraph
  | .paragraph p => some p
  | .formalItem _ => none

/-- The paragraphs of a document, in document order. -/
def Document.paragraphs (doc : Document) : List Paragraph := doc.blocks.filterMap Block.paragraph?

theorem Block.paragraph?_eq_some (b : Block) (p : Paragraph) (h : b.paragraph? = some p) :
    b.itemClass = .paragraph ∧ b.scope = p.number.scope ∧ b.position = p.number.position := by
  cases b with
  | formalItem f => cases h
  | paragraph q =>
      cases h
      exact ⟨rfl, rfl, rfl⟩

theorem Section.pairwise_subsections {part? : Option PartNumber} {i : Nat} {s : Section}
    (h : s.InPlace part? i) :
    s.subsections.Pairwise fun t u => compare t.number u.number = .lt := by
  have hbody := h.body
  unfold Section.subsections
  cases hb : s.body with
  | content blocks => exact List.Pairwise.nil
  | subsections divisions =>
      rw [hb] at hbody
      refine pairwise_of_getElem? fun m n t u ht hu hmn => ?_
      have hparent : t.number.parent = u.number.parent :=
        (hbody m t ht).parent.trans (hbody n u hu).parent.symm
      refine SubsectionNumber.compare_of_position hparent ?_
      rw [(hbody m t ht).position, (hbody n u hu).position]
      omega

theorem Document.increasing_sections {doc : Document} (h : doc.body.InPlace) :
    Increasing (doc.sections.map (·.number)) :=
  List.pairwise_map.mpr (Document.pairwise_sections h)

theorem Document.increasing_subsections {doc : Document} (h : doc.body.InPlace) :
    Increasing (doc.subsections.map (·.number)) := by
  have hshaped := Document.shaped_of_inPlace h
  refine List.pairwise_map.mpr (List.pairwise_flatMap.mpr ⟨?_, ?_⟩)
  · intro s hs
    rcases Document.exists_inPlace h hs with ⟨part?, i, hplace, -⟩
    exact Section.pairwise_subsections hplace
  -- Subsections of different sections compare like the sections they extend.
  · refine List.Pairwise.imp_of_mem ?_ (Document.pairwise_sections h)
    intro s t hs ht hlt u hu v hv
    refine SubsectionNumber.compare_of_parent ?_
    rw [(hshaped s hs).subsections u hu, (hshaped t ht).subsections v hv]
    exact hlt

theorem Document.increasing_paragraphs {doc : Document} (h : doc.body.InPlace) :
    Increasing (doc.paragraphs.map (·.number)) :=
  List.pairwise_map.mpr (Document.pairwise_ofClass Block.paragraph?_eq_some h)

theorem Document.increasing_formalItems {doc : Document} (h : doc.body.InPlace) :
    Increasing (doc.formalItems.map (·.number)) :=
  List.pairwise_map.mpr (Document.pairwise_ofClass Block.formalItem?_eq_some h)

namespace Draft

variable {d : Document} {doc : Manuscript.Document}

/-- In document order the numbers of each family increase, and so none is given twice. -/
theorem Document.enumerate_increasing (hd : d.WithinLimit) (h : d.enumerate = .ok doc) :
    (Increasing (doc.sections.map (·.number)) ∧ (doc.sections.map (·.number)).Nodup) ∧
      (Increasing (doc.subsections.map (·.number)) ∧ (doc.subsections.map (·.number)).Nodup) ∧
      (Increasing (doc.paragraphs.map (·.number)) ∧ (doc.paragraphs.map (·.number)).Nodup) ∧
      Increasing (doc.formalItems.map (·.number)) ∧ (doc.formalItems.map (·.number)).Nodup := by
  have hplace := inPlace_of_enumerate hd h
  have hsections := Document.increasing_sections hplace
  have hsubsections := Document.increasing_subsections hplace
  have hparagraphs := Document.increasing_paragraphs hplace
  have hitems := Document.increasing_formalItems hplace
  exact ⟨⟨hsections, hsections.nodup⟩, ⟨hsubsections, hsubsections.nodup⟩,
    ⟨hparagraphs, hparagraphs.nodup⟩, hitems, hitems.nodup⟩

theorem Document.enumerate_gallery_increasing : gallery.WithinLimit ∧
    ∃ doc, gallery.enumerate = .ok doc ∧
      doc.subsections.map (fun s => s.number.text) = ["2.1", "2.2"] ∧
      doc.formalItems.map (fun f => f.number.text) =
        ["1.1", "1.2", "2.1.1", "2.2.1", "2.2.2", "3.1"] ∧
      Increasing (doc.formalItems.map (·.number)) := by
  have hlimit : gallery.WithinLimit := by decide
  -- The elements are those of the numbered body, whatever the index holds.
  have hsubsections : (Manuscript.Document.subsections
      ⟨"Gallery", false, none, gallery.numbered, .empty⟩).map (fun s => s.number.text) =
        ["2.1", "2.2"] := by
    decide +kernel
  have hitems : (Manuscript.Document.formalItems
      ⟨"Gallery", false, none, gallery.numbered, .empty⟩).map (fun f => f.number.text) =
        ["1.1", "1.2", "2.1.1", "2.2.1", "2.2.2", "3.1"] := by
    decide +kernel
  rcases exists_of_isOk (show gallery.enumerate.isOk = true by decide +kernel) with ⟨doc, h⟩
  rcases enumerate_increasing hlimit h with ⟨-, -, -, hincreasing, -⟩
  refine ⟨hlimit, doc, h, ?_, ?_, hincreasing⟩
  · rw [(enumerate_eq_ok_iff.mp h).2]
    exact hsubsections
  · rw [(enumerate_eq_ok_iff.mp h).2]
    exact hitems

end Draft

end Manuscript
