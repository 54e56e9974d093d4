import Manuscript.Proofs.Navigation.ReadingOrder

/-!
# Looking up Numbers

What is found under a number. A lookup goes to the position that the number
ends in and, but for parts, compares the number that stands there with the one
that was asked for. It never searches, so it is right only where elements
stand in a row: there an element that carries the number can stand at no other
position than the one where it is looked for.

The statements hold for every number, whether or not it fits the document. A
section number without a part finds nothing in a document that has parts, one
with a part finds nothing in a document that has none, and a position past the
end of a list finds nothing in either.

A number under which no segment is found has no neighbours. Navigation asks
for the segment first, so this needs nothing of the document.

## Main definitions

* `Section.DividedInRow`: The subsections of a section stand in a row.
* `Document.Contains`: A segment of the document's tree.

## Theorems

* `Position.of?_eq_some_iff`: What is found at a position of a row.
* `Document.part?_eq_some_iff`, `Document.section?_eq_some_iff`: Lookups in a document.
* `Part.section?_eq_some_iff`, `Section.subsection?_eq_some_iff`: Lookups in a division.
* `Document.segment?_eq_some_iff`: Lookups of segments.
* `Document.isSome_segment?`: The segments that are found are those of the reading order.
* `Document.neighbours_of_segment?_eq_none`: Where nothing is found there are no neighbours.
-/

namespace Manuscript

/-! ### Rows -/

theorem Position.ofIndex_pred (p : Position) : ofIndex (p.val - 1) = p := by
  have hpos := p.pos
  have hlimit := p.le_limit
  apply ext
  show min (p.val - 1 + 1) limit = p.val
  unfold limit
  omega

/-- In a list whose elements know their places, an element is found at the one position that it
    knows, and at no other. -/
theorem Position.of?_eq_some_iff {α : Type} {items : List α} (place : α → Position)
    (hroom : items.length < limit) (hplace : ∀ i x, items[i]? = some x → place x = ofIndex i)
    {p : Position} {x : α} : p.of? items = some x ↔ x ∈ items ∧ place x = p := by
  constructor
  · intro h
    exact ⟨List.mem_of_getElem? h, (hplace _ x h).trans p.ofIndex_pred⟩
  · rintro ⟨hx, rfl⟩
    rcases List.mem_iff_getElem?.mp hx with ⟨i, hi⟩
    rw [hplace i x hi, of?_ofIndex hroom, hi]

/-- Comparing the number that was found changes nothing for an element that carries it. -/
theorem Position.filter_of?_eq_some_iff {α ν : Type} [DecidableEq ν] {items : List α}
    {number : α → ν} (position : ν → Position) (hroom : items.length < limit)
    (hplace : ∀ i x, items[i]? = some x → position (number x) = ofIndex i) {n : ν} {x : α} :
    ((position n).of? items).filter (fun y => number y = n) = some x ↔
      x ∈ items ∧ number x = n := by
  have hfound := of?_eq_some_iff (fun y => position (number y)) hroom hplace
    (p := position n) (x := x)
  rw [Option.filter_eq_some_iff, hfound, decide_eq_true_iff]
  constructor
  · rintro ⟨⟨hx, -⟩, hn⟩
    exact ⟨hx, hn⟩
  · rintro ⟨hx, hn⟩
    exact ⟨⟨hx, congrArg position hn⟩, hn⟩

/-- The subsections of a section carry the numbers of their places. -/
structure Section.DividedInRow (s : Section) : Prop where
  room : s.subsections.length < Position.limit
  number : ∀ (i : Nat) (t : Subsection), s.subsections[i]? = some t →
    t.number = ⟨s.number, .ofIndex i⟩

/-! ### Lookups in divisions -/

theorem SectionsInRow.part?_eq {part? : Option PartNumber} {divisions : List Section}
    (h : SectionsInRow part? divisions) {s : Section} (hs : s ∈ divisions) :
    s.number.part? = part? := by
  rcases List.mem_iff_getElem?.mp hs with ⟨i, hi⟩
  rw [h.number i s hi]

theorem SectionsInRow.filter_of?_eq_some_iff {part? : Option PartNumber} {divisions : List Section}
    (h : SectionsInRow part? divisions) {n : SectionNumber} {s : Section} :
    (n.position.of? divisions).filter (fun t => t.number = n) = some s ↔
      s ∈ divisions ∧ s.number = n :=
  Position.filter_of?_eq_some_iff SectionNumber.position h.room
    (fun i t ht => by rw [h.number i t ht])

/-- A number of another part, or of no part, is carried by no section of this part. -/
theorem Part.section?_eq_some_iff {p : Part} (h : SectionsInRow (some p.number) p.sections)
    {n : SectionNumber} {s : Section} : p.section? n = some s ↔ s ∈ p.sections ∧ s.number = n := by
  unfold Part.section?
  by_cases hn : n.part? = some p.number
  · rw [if_pos hn, h.filter_of?_eq_some_iff]
  · rw [if_neg hn]
    refine ⟨fun hnone => (Option.some_ne_none _ hnone.symm).elim, ?_⟩
    rintro ⟨hs, rfl⟩
    exact absurd (h.part?_eq hs) hn

theorem Section.subsection?_eq_some_iff {s : Section} (h : s.DividedInRow) {n : SubsectionNumber}
    {t : Subsection} : s.subsection? n = some t ↔ t ∈ s.subsections ∧ t.number = n := by
  unfold Section.subsection?
  by_cases hn : n.parent = s.number
  · rw [if_pos hn]
    exact Position.filter_of?_eq_some_iff SubsectionNumber.position h.room
      (fun i u hu => by rw [h.number i u hu])
  · rw [if_neg hn]
    refine ⟨fun hnone => (Option.some_ne_none _ hnone.symm).elim, ?_⟩
    rintro ⟨ht, rfl⟩
    rcases List.mem_iff_getElem?.mp ht with ⟨i, hi⟩
    exact absurd (congrArg SubsectionNumber.parent (h.number i t hi)) hn

/-! ### Lookups in documents -/

namespace Document

variable {doc : Document}

theorem part?_eq_some_iff (h : doc.body.InRow) {n : PartNumber} {p : Part} :
    doc.part? n = some p ↔ p ∈ doc.parts ∧ p.number = n := by
  unfold part? parts
  cases hb : doc.body with
  | parts divisions =>
      rw [hb] at h
      have hplace : ∀ (i : Nat) (q : Part), divisions[i]? = some q →
          q.number.position = .ofIndex i :=
        fun i q hq => by rw [PartsInRow.number h i q hq]
      -- A part number is its position, so the part that stands there carries the number.
      rw [Position.of?_eq_some_iff (·.number.position) (PartsInRow.room h) hplace]
      exact and_congr_right fun _ => ⟨congrArg PartNumber.mk, congrArg PartNumber.position⟩
  | sections divisions => simp [Position.of?]

/-- The part that a section number names is the only one where a section can carry it. -/
theorem section?_eq_some_iff (h : doc.body.InRow) {n : SectionNumber} {s : Section} :
    doc.section? n = some s ↔ s ∈ doc.sections ∧ s.number = n := by
  have hparts := fun m p => part?_eq_some_iff h (n := m) (p := p)
  unfold section? sections
  unfold parts at hparts
  cases hb : doc.body with
  | parts divisions =>
      rw [hb] at h
      simp only [hb] at hparts
      have hrow : ∀ p ∈ divisions, SectionsInRow (some p.number) p.sections :=
        PartsInRow.sections h
      cases hn : n.part? with
      | none =>
          -- All sections of the document name a part, and the number does not.
          refine ⟨fun hnone => (Option.some_ne_none _ hnone.symm).elim, ?_⟩
          rintro ⟨hs, rfl⟩
          rcases List.mem_flatMap.mp hs with ⟨p, hp, hsp⟩
          rw [(hrow p hp).part?_eq hsp] at hn
          cases hn
      | some m =>
          simp only [Option.bind_eq_some_iff, List.mem_flatMap, hparts]
          constructor
          · rintro ⟨p, ⟨hp, rfl⟩, hs⟩
            rcases (Part.section?_eq_some_iff (hrow p hp)).mp hs with ⟨hsp, hnumber⟩
            exact ⟨⟨p, hp, hsp⟩, hnumber⟩
          · rintro ⟨⟨p, hp, hsp⟩, hnumber⟩
            have hpart : some p.number = some m := by
              rw [← hn, ← hnumber, (hrow p hp).part?_eq hsp]
            exact ⟨p, ⟨hp, Option.some.inj hpart⟩,
              (Part.section?_eq_some_iff (hrow p hp)).mpr ⟨hsp, hnumber⟩⟩
  | sections divisions =>
      rw [hb] at h
      have hrow : SectionsInRow none divisions := h
      cases hn : n.part? with
      | none => exact hrow.filter_of?_eq_some_iff
      | some m =>
          refine ⟨fun hnone => (Option.some_ne_none _ hnone.symm).elim, ?_⟩
          rintro ⟨hs, rfl⟩
          rw [hrow.part?_eq hs] at hn
          cases hn

/-- A segment that stands in the document: one of its parts or of its sections. -/
def Contains (doc : Document) : Segment → Prop
  | .ofPart p => p ∈ doc.parts
  | .ofSection s => s ∈ doc.sections

theorem segment?_eq_some_iff (h : doc.body.InRow) {n : SegmentNumber} {g : Segment} :
    doc.segment? n = some g ↔ doc.Contains g ∧ g.number = n := by
  cases n with
  | ofPart m =>
      rw [segment?, Option.map_eq_some_iff]
      constructor
      · rintro ⟨p, hp, rfl⟩
        rcases (part?_eq_some_iff h).mp hp with ⟨hmem, rfl⟩
        exact ⟨hmem, rfl⟩
      · rintro ⟨hmem, hnumber⟩
        cases g with
        | ofPart p =>
            exact ⟨p, (part?_eq_some_iff h).mpr ⟨hmem, SegmentNumber.ofPart.inj hnumber⟩, rfl⟩
        | ofSection s => cases hnumber
  | ofSection m =>
      rw [segment?, Option.map_eq_some_iff]
      constructor
      · rintro ⟨s, hs, rfl⟩
        rcases (section?_eq_some_iff h).mp hs with ⟨hmem, rfl⟩
        exact ⟨hmem, rfl⟩
      · rintro ⟨hmem, hnumber⟩
        cases g with
        | ofPart p => cases hnumber
        | ofSection s =>
            exact ⟨s, (section?_eq_some_iff h).mpr ⟨hmem, SegmentNumber.ofSection.inj hnumber⟩,
              rfl⟩

/-- The reading order consists of the numbers of all parts and sections. -/
theorem mem_readingOrder (doc : Document) (n : SegmentNumber) :
    n ∈ doc.readingOrder ↔ ∃ g, doc.Contains g ∧ g.number = n := by
  have hcases : (∃ g, doc.Contains g ∧ g.number = n) ↔
      (∃ p ∈ doc.parts, .ofPart p.number = n) ∨ ∃ s ∈ doc.sections, .ofSection s.number = n := by
    constructor
    · rintro ⟨g, hg, rfl⟩
      cases g with
      | ofPart p => exact .inl ⟨p, hg, rfl⟩
      | ofSection s => exact .inr ⟨s, hg, rfl⟩
    · rintro (⟨p, hp, rfl⟩ | ⟨s, hs, rfl⟩)
      · exact ⟨.ofPart p, hp, rfl⟩
      · exact ⟨.ofSection s, hs, rfl⟩
  rw [hcases]
  unfold readingOrder parts sections
  cases doc.body with
  | parts divisions =>
      simp only [Body.readingOrder, Part.segments, List.mem_flatMap, List.mem_cons, List.mem_map]
      -- A number is that of a part or of a section in the part.
      constructor
      · rintro ⟨p, hp, rfl | ⟨s, hs, rfl⟩⟩
        · exact .inl ⟨p, hp, rfl⟩
        · exact .inr ⟨s, ⟨p, hp, hs⟩, rfl⟩
      · rintro (⟨p, hp, rfl⟩ | ⟨s, ⟨p, hp, hs⟩, rfl⟩)
        · exact ⟨p, hp, .inl rfl⟩
        · exact ⟨p, hp, .inr ⟨s, hs, rfl⟩⟩
  | sections divisions => simp [Body.readingOrder]

theorem isSome_segment? (h : doc.body.InRow) (n : SegmentNumber) :
    (doc.segment? n).isSome ↔ n ∈ doc.segments := by
  rw [(readInOrder_of_inRow h).segments, mem_readingOrder, Option.isSome_iff_exists]
  exact exists_congr fun g => segment?_eq_some_iff h

theorem neighbours_of_segment?_eq_none {n : SegmentNumber} (hn : doc.segment? n = none) :
    doc.next? n = none ∧ doc.previous? n = none ∧ doc.up? n = none := by
  simp only [next?, previous?, up?, hn, and_self]

end Document

end Manuscript
