import Mathlib.Data.List.Pairwise
import Manuscript.Proofs.Numbering.Descriptions
import Manuscript.Proofs.Report.Outline

/-!
# Consistency of Reports

A report has four tables: the outline, which is taken from the tree of the
document, and the identifiers, footnotes and formal items, which are taken from
the three collections of its index. The tables name the same elements, and
`Report.Consistent` says how they fit together.

An entry refers to its element by class and printed number. Within one document
these belong to one element, so an entry of one table can be compared with an
entry of another. That is what `identifier_iff` does: an element has an
identifier exactly if the table of identifiers has it at the element's class
and number.

## Main definitions

* `Report.itemEntries`: The entries of formal items of all kinds.
* `Report.Consistent`: The tables of a report fit each other and the document.

## Theorems

* `Draft.Document.eq_of_describe`: Elements described alike are one element.
* `Draft.Document.identifier_iff`: Identifiers of elements and of the table.
* `Draft.Document.enumerate_report`: The report of a numbered draft is consistent.
-/

namespace Manuscript

namespace Report

/-- The entries of formal items, kind by kind. -/
def itemEntries (r : Report) : List FormalItemEntry := r.formalItems.flatMap (·.2)

/-- The tables of a report fit each other, and they leave nothing of the document out. -/
structure Consistent (r : Report) (doc : Document) : Prop where
  /-- The outline lists every heading of the document, in reading order. -/
  headings : r.entries.map OutlineEntry.label = doc.headings.map Element.label
  /-- Each footnote of the table has the number of its place. -/
  noteNumbers : r.footnotes.map (·.number) = List.range r.footnotes.length
  /-- The outline refers to each footnote of the table once, in order. -/
  outlineNotes : r.entries.flatMap (·.footnotes) = List.range r.footnotes.length
  identifiersInOrder : r.identifiers.Pairwise fun a b => bytes a.id < bytes b.id
  /-- An entry of the outline has an identifier exactly if the table has it there. -/
  headingIds : ∀ e ∈ r.entries, ∀ id,
    e.id? = some id ↔ ⟨id, e.element, e.number⟩ ∈ r.identifiers ∧ e.element.isHeading = true
  /-- The identifiers of headings are all in the outline. -/
  exists_heading : ∀ i ∈ r.identifiers, i.element.isHeading = true →
    ∃ e ∈ r.entries, e.id? = some i.id ∧ e.element = i.element ∧ e.number = i.number
  /-- An entry of a formal item has an identifier exactly if the table has it there. -/
  itemIds : ∀ e ∈ r.itemEntries, ∀ id,
    e.id? = some id ↔ ⟨id, .formalItem, e.number⟩ ∈ r.identifiers
  /-- The identifiers of formal items are all among the entries of these. -/
  exists_item : ∀ i ∈ r.identifiers, i.element = .formalItem →
    ∃ e ∈ r.itemEntries, e.id? = some i.id ∧ e.number = i.number
  /-- Every other identifier is that of a paragraph. -/
  exists_paragraph : ∀ i ∈ r.identifiers, i.element.isHeading = false → i.element ≠ .formalItem →
    i.element = .paragraph ∧
      ∃ p, .paragraph p ∈ doc.elements ∧ p.id? = some i.id ∧ p.number.text = i.number
  kindsInOrder : r.formalItems.Pairwise fun a b => bytes a.1 < bytes b.1
  kind_ne_nil : ∀ group ∈ r.formalItems, group.2 ≠ []
  /-- Each formal item of the document has one entry, under its kind. -/
  items : (r.formalItems.flatMap fun group => group.2.map (Prod.mk group.1)).Perm
    (doc.formalItems.map fun f => (f.kind, .ofFormalItem f))

end Report

namespace Draft

variable {d : Document} {doc : Manuscript.Document}

/-! ### Identifiers -/

/-- Elements of a numbered draft that are described alike are one element. -/
theorem Document.eq_of_describe (hd : d.WithinLimit) (h : d.enumerate = .ok doc) {a b : Element}
    (ha : a ∈ doc.elements) (hb : b ∈ doc.elements) (hsame : a.describe = b.describe) : a = b := by
  have hapart := (Document.contents_elements (inPlace_of_enumerate hd h)).apart
  rcases Element.describe_inj hsame with ⟨hclass, hcomponents⟩
  -- Being apart goes both ways, so it does not matter which of the two comes first.
  have : Std.Symm Element.Apart := ⟨fun x y hxy hyx hcomp => hxy hyx.symm hcomp.symm⟩
  refine Classical.byContradiction fun hne => ?_
  exact hapart.forall ha hb hne hclass hcomponents

theorem Document.mem_identifiers (h : d.enumerate = .ok doc) {i : IdentifierEntry} :
    i ∈ (Report.ofDocument doc).identifiers ↔
      ∃ e ∈ doc.elements, e.id? = some i.id ∧ e.elementClass = i.element ∧ e.number = i.number := by
  have hentry : ∀ id e, (id, e) ∈ doc.index.identifiers.entries ↔
      e ∈ doc.elements ∧ e.id? = some id := by
    intro id e
    rw [(holds_identifiers h).perm_entries.mem_iff, mem_bindings]
  show i ∈ doc.index.identifiers.entries.map _ ↔ _
  rw [List.mem_map]
  constructor
  · rintro ⟨⟨id, e⟩, hmem, rfl⟩
    rcases (hentry id e).mp hmem with ⟨he, hid⟩
    exact ⟨e, he, hid, rfl, rfl⟩
  · rintro ⟨e, he, hid, hclass, hnumber⟩
    refine ⟨(i.id, e), (hentry i.id e).mpr ⟨he, hid⟩, ?_⟩
    simp only [hclass, hnumber]

/-- An element has an identifier exactly if the table has it at the class and number of the
    element. -/
theorem Document.identifier_iff (hd : d.WithinLimit) (h : d.enumerate = .ok doc) {e : Element}
    (he : e ∈ doc.elements) (id : String) :
    e.id? = some id ↔
      ⟨id, e.elementClass, e.number⟩ ∈ (Report.ofDocument doc).identifiers := by
  rw [mem_identifiers h]
  constructor
  · intro hid
    exact ⟨e, he, hid, rfl, rfl⟩
  · rintro ⟨t, ht, hid, hclass, hnumber⟩
    have hsame : t.describe = e.describe := by
      rw [Element.describe, Element.describe, hclass, hnumber]
    rw [← eq_of_describe hd h ht he hsame]
    exact hid

/-! ### Entries and their elements -/

theorem Document.exists_heading_of_entry {e : OutlineEntry}
    (he : e ∈ (Report.ofDocument doc).entries) :
    ∃ t ∈ doc.elements, t.elementClass.isHeading = true ∧ e.label = t.label := by
  have hlabel : e.label ∈ doc.headings.map Element.label := by
    rw [← Report.map_label_entries]
    exact List.mem_map_of_mem he
  rcases List.mem_map.mp hlabel with ⟨t, ht, hsame⟩
  rcases doc.mem_headings.mp ht with ⟨hmem, hclass⟩
  exact ⟨t, hmem, hclass, hsame.symm⟩

theorem Document.exists_entry_of_heading {t : Element} (ht : t ∈ doc.elements)
    (hclass : t.elementClass.isHeading = true) :
    ∃ e ∈ (Report.ofDocument doc).entries, e.label = t.label := by
  have hlabel : t.label ∈ (Report.ofDocument doc).entries.map OutlineEntry.label := by
    rw [Report.map_label_entries]
    exact List.mem_map_of_mem (doc.mem_headings.mpr ⟨ht, hclass⟩)
  rcases List.mem_map.mp hlabel with ⟨e, he, hsame⟩
  exact ⟨e, he, hsame⟩

theorem Document.mem_formalItems {f : Manuscript.FormalItem} :
    f ∈ doc.formalItems ↔ .formalItem f ∈ doc.elements := by
  rw [Manuscript.Document.formalItems, ← doc.formalItemsOf_elements, mem_formalItemsOf]

theorem Document.mem_byKind_iff (hd : d.WithinLimit) (h : d.enumerate = .ok doc) {kind : String}
    {f : Manuscript.FormalItem} :
    f ∈ doc.index.formalItems.byKind kind ↔ f ∈ doc.formalItems ∧ f.kind = kind := by
  rw [(holds_items hd h).mem_byKind, List.mem_map]
  constructor
  · rintro ⟨g, hg, heq⟩
    cases heq
    exact ⟨hg, rfl⟩
  · rintro ⟨hf, rfl⟩
    exact ⟨f, hf, rfl⟩

theorem Document.mem_itemEntries (hd : d.WithinLimit) (h : d.enumerate = .ok doc)
    {e : FormalItemEntry} :
    e ∈ (Report.ofDocument doc).itemEntries ↔
      ∃ f : Manuscript.FormalItem, .formalItem f ∈ doc.elements ∧ e = .ofFormalItem f := by
  unfold Report.itemEntries Report.ofDocument
  rw [List.mem_flatMap]
  constructor
  · rintro ⟨group, hgroup, hmem⟩
    rcases List.mem_map.mp hgroup with ⟨kind, -, rfl⟩
    rcases List.mem_map.mp hmem with ⟨f, hf, rfl⟩
    exact ⟨f, mem_formalItems.mp ((mem_byKind_iff hd h).mp hf).1, rfl⟩
  · rintro ⟨f, hf, rfl⟩
    have hitem := (mem_byKind_iff hd h).mpr ⟨mem_formalItems.mpr hf, rfl⟩
    exact ⟨_, List.mem_map_of_mem (FormalItems.mem_kinds_of_mem_byKind hitem),
      List.mem_map_of_mem hitem⟩

/-! ### The tables -/

theorem Document.numbers_eq_range (h : d.enumerate = .ok doc) :
    doc.footnotes.map Footnote.number = List.range doc.footnotes.length := by
  have hbody : doc.notes = d.numbered.notes := by
    rw [(enumerate_eq_ok_iff.mp h).2]
    rfl
  rw [← notes_eq h, hbody]
  exact d.numberedInOrder

theorem Document.items_perm (hd : d.WithinLimit) (h : d.enumerate = .ok doc) :
    ((Report.ofDocument doc).formalItems.flatMap fun group =>
        group.2.map (Prod.mk group.1)).Perm
      (doc.formalItems.map fun f => (f.kind, FormalItemEntry.ofFormalItem f)) := by
  have hdistinct : FormalItems.Distinct (doc.formalItems.map fun f => (f.kind, f)) :=
    FormalItems.distinct_of_pairwise (List.pairwise_map.mpr (pairwise_items hd h))
  have hperm := ((holds_items hd h).perm_filed hdistinct).map fun filing =>
    (filing.1, FormalItemEntry.ofFormalItem filing.2)
  rw [FormalItems.filed, List.map_flatMap, List.map_map] at hperm
  -- The table lists, kind by kind, the entries of what is filed under the kind.
  simp only [Report.ofDocument, List.flatMap_map, List.map_map]
  simpa only [List.map_map, Function.comp_def] using hperm

/-- The report of a numbered draft is consistent with itself and with the document. -/
theorem Document.enumerate_report (hd : d.WithinLimit) (h : d.enumerate = .ok doc) :
    (Report.ofDocument doc).Consistent doc := by
  have hnotes : (Report.ofDocument doc).footnotes.map (·.number) =
      List.range (Report.ofDocument doc).footnotes.length := by
    simpa [Report.ofDocument, Function.comp_def] using numbers_eq_range h
  refine
    { headings := Report.map_label_entries doc
      noteNumbers := hnotes
      outlineNotes := ?_
      identifiersInOrder := List.pairwise_map.mpr doc.index.identifiers.pairwise_entries
      headingIds := ?_
      exists_heading := ?_
      itemIds := ?_
      exists_item := ?_
      exists_paragraph := ?_
      kindsInOrder := List.pairwise_map.mpr doc.index.formalItems.pairwise_kinds
      kind_ne_nil := ?_
      items := items_perm hd h }
  · rw [Report.flatMap_footnotes_entries, flatMap_footnotes h, numbers_eq_range h]
    simp [Report.ofDocument]
  · intro e he id
    rcases exists_heading_of_entry he with ⟨t, ht, hclass, hlabel⟩
    rcases OutlineEntry.label_eq_iff.mp hlabel with ⟨helement, hnumber, -, hid⟩
    rw [hid, helement, hnumber, and_iff_left hclass]
    exact identifier_iff hd h ht id
  · intro i hi hclass
    rcases (mem_identifiers h).mp hi with ⟨t, ht, hid, helement, hnumber⟩
    rw [← helement] at hclass
    rcases exists_entry_of_heading ht hclass with ⟨e, he, hlabel⟩
    rcases OutlineEntry.label_eq_iff.mp hlabel with ⟨hsame, hprinted, -, hsameid⟩
    exact ⟨e, he, hsameid.trans hid, hsame.trans helement, hprinted.trans hnumber⟩
  · intro e he id
    rcases (mem_itemEntries hd h).mp he with ⟨f, hf, rfl⟩
    exact identifier_iff hd h hf id
  · intro i hi hclass
    rcases (mem_identifiers h).mp hi with ⟨t, ht, hid, helement, hnumber⟩
    rw [← helement] at hclass
    cases t with
    | formalItem f =>
        exact ⟨.ofFormalItem f, (mem_itemEntries hd h).mpr ⟨f, ht, rfl⟩, hid, hnumber⟩
    | part p => cases hclass
    | sect s => cases hclass
    | subsect s => cases hclass
    | paragraph p => cases hclass
  · intro i hi hheading hitem
    rcases (mem_identifiers h).mp hi with ⟨t, ht, hid, helement, hnumber⟩
    rw [← helement] at hheading hitem ⊢
    cases t with
    | paragraph p => exact ⟨rfl, p, ht, hid, hnumber⟩
    | formalItem f => exact absurd rfl hitem
    | part p => cases hheading
    | sect s => cases hheading
    | subsect s => cases hheading
  · intro group hgroup
    rcases List.mem_map.mp hgroup with ⟨kind, hkind, rfl⟩
    rcases (mem_kinds_iff h kind).mp hkind with ⟨f, hf, hfkind⟩
    have hitem := (mem_byKind_iff hd h).mpr ⟨hf, hfkind⟩
    exact List.ne_nil_of_mem (List.mem_map_of_mem hitem)

theorem Document.enumerate_handbook_report : handbook.WithinLimit ∧
    ∃ doc, handbook.enumerate = .ok doc ∧
      (Report.ofDocument doc).entries.map (fun e => (e.number, e.footnotes)) =
        [("1", []), ("1.1", [0, 1]), ("1.2", [2]), ("1.2.1", []), ("2", []), ("2.1", [])] ∧
      (Report.ofDocument doc).Consistent doc := by
  have hlimit : handbook.WithinLimit := by decide
  -- The outline is taken from the numbered body, whatever the index holds.
  have hentries : (Report.ofDocument
      ⟨"Handbook", true, none, handbook.numbered, .empty⟩).entries.map
        (fun e => (e.number, e.footnotes)) =
      [("1", []), ("1.1", [0, 1]), ("1.2", [2]), ("1.2.1", []), ("2", []), ("2.1", [])] := by
    decide +kernel
  rcases enumerate_handbook with ⟨doc, h⟩
  refine ⟨hlimit, doc, h, ?_, enumerate_report hlimit h⟩
  rw [(enumerate_eq_ok_iff.mp h).2]
  exact hentries

end Draft

end Manuscript
