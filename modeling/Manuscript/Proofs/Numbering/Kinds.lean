import Manuscript.Proofs.Index.Kinds
import Manuscript.Proofs.Numbering.Resolution

/-!
# Formal Items of a Document by Kind

The collection of formal items in the index, compared with the document. The
items of a kind are those that stand in the document, in the order in which
they stand there.

The collection knows nothing of that order. It goes by numbers, and numbers of
items in a section have another shape than numbers of items in a subsection.
But document order is number order, whatever shapes are mixed, and so no item
takes the place of another and none changes places with another.

## Main definitions

* `Document.formalItems`: The formal items of a document, in document order.
* `Draft.Document.gallery`: A draft with items in sections and in subsections.

## Theorems

* `Draft.Document.enumerate_byKind`: The formal items of a numbered draft by kind.
-/

namespace Manuscript

/-- The formal items of a document, in document order. -/
def Document.formalItems (doc : Document) : List FormalItem :=
  doc.blocks.filterMap Block.formalItem?

/-- A draft without parts. Its figures and tables stand in sections and in subsections. -/
def Draft.Document.gallery : Draft.Document :=
  ⟨"Gallery", false, none, .sections [
    ⟨"Entrance", none, none, false, .content [
      .formalItem ⟨"Plan", "table", none, none, .listing "figure"⟩,
      .paragraph ⟨none, none, [.inline (.text "Welcome.")]⟩,
      .formalItem ⟨"Door", "figure", some "door", none, .verbatim ⟨"[]", none⟩⟩]⟩,
    ⟨"Halls", none, none, false, .subsections [
      ⟨"East", none, none, [
        .formalItem ⟨"Window", "figure", none, none, .verbatim ⟨"#", none⟩⟩]⟩,
      ⟨"West", none, none, [
        .formalItem ⟨"Wall", "figure", none, none, .verbatim ⟨"|", none⟩⟩,
        .formalItem ⟨"Sizes", "table", none, none, .listing "table"⟩]⟩]⟩,
    ⟨"Exit", none, none, false, .content [
      .formalItem ⟨"Gate", "figure", none, none, .verbatim ⟨"()", none⟩⟩]⟩]⟩

namespace Draft

variable {d : Document} {doc : Manuscript.Document}

theorem Document.holds_items (hd : d.WithinLimit) (h : d.enumerate = .ok doc) :
    doc.index.formalItems.Holds (doc.formalItems.map fun f => (f.kind, f)) := by
  rw [Manuscript.Document.formalItems, ← doc.formalItemsOf_elements]
  exact holds_formalItems hd h

theorem Document.pairwise_items (hd : d.WithinLimit) (h : d.enumerate = .ok doc) :
    doc.formalItems.Pairwise fun f g => compare f.number g.number = .lt := by
  rw [Manuscript.Document.formalItems, ← doc.formalItemsOf_elements]
  exact Document.pairwise_formalItems (inPlace_of_enumerate hd h)

theorem Document.mem_kinds_iff (h : d.enumerate = .ok doc) (kind : String) :
    kind ∈ doc.index.formalItems.kinds ↔ ∃ f ∈ doc.formalItems, f.kind = kind := by
  have hnone : kind ∉ FormalItems.empty.kinds := FormalItems.not_mem_kinds_empty kind
  rw [(Index.gather_eq_ok (gather_elements h)).2.2, FormalItems.fileAll,
    FormalItems.mem_kinds_insertAll, doc.formalItemsOf_elements, List.map_map]
  exact (or_iff_left hnone).trans List.mem_map

/-- The formal items of a kind are those of the document with that kind, in document order. The
    kinds are those that occur, in the order of their bytes, and all items are counted. -/
theorem Document.enumerate_byKind (hd : d.WithinLimit) (h : d.enumerate = .ok doc) :
    (∀ kind, doc.index.formalItems.byKind kind =
        doc.formalItems.filter fun f => f.kind = kind) ∧
      (doc.index.formalItems.kinds.Pairwise fun a b => bytes a < bytes b) ∧
      (∀ kind, kind ∈ doc.index.formalItems.kinds ↔ ∃ f ∈ doc.formalItems, f.kind = kind) ∧
      doc.index.formalItems.size = doc.formalItems.length := by
  have hholds := holds_items hd h
  have hsorted : (doc.formalItems.map fun f => (f.kind, f)).Pairwise fun a b =>
      compare a.2.number b.2.number = .lt := List.pairwise_map.mpr (pairwise_items hd h)
  refine ⟨?_, doc.index.formalItems.pairwise_kinds, mem_kinds_iff h, ?_⟩
  · intro kind
    rw [hholds.byKind_eq_itemsOf hsorted, FormalItems.itemsOf, List.filter_map, List.map_map]
    exact List.map_id' _
  · rw [hholds.size_eq (FormalItems.distinct_of_pairwise hsorted), List.length_map]

theorem Document.enumerate_gallery_byKind : gallery.WithinLimit ∧
    ∃ doc, gallery.enumerate = .ok doc ∧
      (doc.index.formalItems.byKind "figure").map (fun f => f.number.text) =
        ["1.2", "2.1.1", "2.2.1", "3.1"] ∧
      (doc.index.formalItems.byKind "table").map (fun f => f.number.text) = ["1.1", "2.2.2"] ∧
      doc.index.formalItems.size = 6 := by
  have hlimit : gallery.WithinLimit := by decide
  -- The items are those of the numbered body, whatever the index holds.
  have hfigures : ((Manuscript.Document.formalItems
      ⟨"Gallery", false, none, gallery.numbered, .empty⟩).filter fun f => f.kind = "figure").map
        (fun f => f.number.text) = ["1.2", "2.1.1", "2.2.1", "3.1"] := by
    decide +kernel
  have htables : ((Manuscript.Document.formalItems
      ⟨"Gallery", false, none, gallery.numbered, .empty⟩).filter fun f => f.kind = "table").map
        (fun f => f.number.text) = ["1.1", "2.2.2"] := by
    decide +kernel
  have hcount : (Manuscript.Document.formalItems
      ⟨"Gallery", false, none, gallery.numbered, .empty⟩).length = 6 := by
    decide +kernel
  rcases exists_of_isOk (show gallery.enumerate.isOk = true by decide +kernel) with ⟨doc, h⟩
  rcases enumerate_byKind hlimit h with ⟨hkind, -, -, hsize⟩
  refine ⟨hlimit, doc, h, ?_, ?_, ?_⟩
  · rw [hkind, (enumerate_eq_ok_iff.mp h).2]
    exact hfigures
  · rw [hkind, (enumerate_eq_ok_iff.mp h).2]
    exact htables
  · rw [hsize, (enumerate_eq_ok_iff.mp h).2]
    exact hcount

end Draft

end Manuscript
