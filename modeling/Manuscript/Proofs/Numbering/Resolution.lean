import Manuscript.Proofs.Index.Identifiers
import Manuscript.Proofs.Numbering.Order

/-!
# Resolving Identifiers

An identifier leads to the element that carries it, as the element stands in
the finished document. Elements are filed while the rest of the document is
still numbered, so this says that nothing changes afterwards: what was filed
is what was built.

By now that is a fact about one list. The index is gathered from the elements
of the document, and of these `Identifiers.Holds` and `FormalItems.Holds` say
what is found. For formal items it takes numbers that tell them apart, and
numbers in place do.

## Theorems

* `Draft.Document.holds_identifiers`: Identifiers lead to the elements that carry them.
* `Draft.Document.holds_formalItems`: Formal items are found by kind and number.
* `Draft.Document.enumerate_lookup`: What an identifier leads to.
-/

namespace Manuscript

namespace Draft

variable {d : Document} {doc : Manuscript.Document}

theorem Document.gather_elements (h : d.enumerate = .ok doc) :
    Index.empty.gather doc.notes doc.elements = .ok doc.index := by
  rcases enumerate_eq_ok_iff.mp h with ⟨hindex, hdoc⟩
  have hbody : doc.body = d.numbered := by rw [hdoc]
  rw [Manuscript.Document.notes, Manuscript.Document.elements, hbody]
  exact hindex

theorem Document.holds_identifiers (h : d.enumerate = .ok doc) :
    doc.index.identifiers.Holds (bindings doc.elements) := by
  have hdefine := (Index.gather_eq_ok (gather_elements h)).1
  rw [Identifiers.foldlM_defineIfAny] at hdefine
  exact Identifiers.Holds.of_defineAll hdefine

/-- In a draft within the limit the numbers of formal items differ, so none replaces another. -/
theorem Document.holds_formalItems (hd : d.WithinLimit) (h : d.enumerate = .ok doc) :
    doc.index.formalItems.Holds ((formalItemsOf doc.elements).map fun f => (f.kind, f)) := by
  rw [(Index.gather_eq_ok (gather_elements h)).2.2]
  refine FormalItems.Holds.empty.insertAll _ (FormalItems.distinct_of_pairwise ?_)
  exact List.pairwise_map.mpr (Document.pairwise_formalItems (inPlace_of_enumerate hd h))

/-- An identifier leads to the one element that carries it, and nothing else is listed. Where the
    numbers of formal items differ, the same element is found under its kind and number. -/
theorem Document.enumerate_lookup (h : d.enumerate = .ok doc) :
    (∀ id t, doc.lookup id = some t ↔ t ∈ doc.elements ∧ t.id? = some id) ∧
      doc.index.identifiers.count = (doc.elements.filter fun t => t.id?.isSome).length ∧
      (doc.index.identifiers.entries.Pairwise fun a b => bytes a.1 < bytes b.1) ∧
      (∀ id t, (id, t) ∈ doc.index.identifiers.entries ↔
        t ∈ doc.elements ∧ t.id? = some id) ∧
      (d.WithinLimit → ∀ f id, .formalItem f ∈ doc.elements → f.id? = some id →
        doc.lookup id = some (.formalItem f) ∧
          (doc.index.formalItems.byKind f.kind).filter (fun g => g.number = f.number) = [f]) := by
  have hholds := holds_identifiers h
  have hlookup : ∀ id t, doc.lookup id = some t ↔ t ∈ doc.elements ∧ t.id? = some id := by
    intro id t
    rw [← mem_bindings, ← hholds.lookup]
    rfl
  refine ⟨hlookup, ?_, doc.index.identifiers.pairwise_entries, ?_, ?_⟩
  · rw [hholds.count_eq, bindings, List.length_filterMap_eq_countP, List.countP_eq_length_filter]
    refine congrArg (fun p => (doc.elements.filter p).length) (funext fun t => ?_)
    rw [Element.binding?, Option.isSome_map]
  · intro id t
    rw [hholds.perm_entries.mem_iff, mem_bindings]
  · intro hd f id hf hid
    -- The item is in both collections because it is among the elements.
    have hfiled := holds_formalItems hd h
    refine ⟨(hlookup id (.formalItem f)).mpr ⟨hf, hid⟩, ?_⟩
    refine FormalItems.filter_number (hfiled.pairwise_byKind f.kind) ?_
    exact hfiled.mem_byKind.mpr (List.mem_map_of_mem (mem_formalItemsOf.mpr hf))

theorem Document.enumerate_handbook_lookup : ∃ doc, handbook.enumerate = .ok doc ∧
    doc.index.identifiers.count = 6 ∧
    (∃ t, doc.lookup "writing" = some t ∧ t.describe = "subsection 1.2.1") ∧
    ∃ f, doc.lookup "marks" = some (.formalItem f) ∧
      (doc.index.formalItems.byKind "figure").filter (fun g => g.number = f.number) = [f] := by
  have hcount : (handbook.numbered.elements.filter fun t => t.id?.isSome).length = 6 := by
    decide +kernel
  have hwriting : ∃ t ∈ handbook.numbered.elements,
      t.id? = some "writing" ∧ t.describe = "subsection 1.2.1" := by
    decide +kernel
  have hmarks : ∃ f ∈ formalItemsOf handbook.numbered.elements,
      f.id? = some "marks" ∧ f.kind = "figure" := by
    decide +kernel
  rcases enumerate_handbook with ⟨doc, h⟩
  rcases enumerate_lookup h with ⟨hlookup, hsize, -, -, hfiled⟩
  have helements : doc.elements = handbook.numbered.elements := by
    rw [(enumerate_eq_ok_iff.mp h).2]
    rfl
  rw [helements] at hlookup hsize hfiled
  refine ⟨doc, h, hsize.trans hcount, ?_, ?_⟩
  · rcases hwriting with ⟨t, ht, hid, hdescribe⟩
    exact ⟨t, (hlookup "writing" t).mpr ⟨ht, hid⟩, hdescribe⟩
  · rcases hmarks with ⟨f, hf, hid, hkind⟩
    have hitem := hfiled (by decide) f "marks" (mem_formalItemsOf.mp hf) hid
    rw [hkind] at hitem
    exact ⟨f, hitem⟩

end Draft

end Manuscript
