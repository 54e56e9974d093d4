import Manuscript.Proofs.Index.Growth
import Manuscript.Proofs.Numbering.Footnotes
import Manuscript.Proofs.Numbering.Order
import Manuscript.Proofs.Numbering.Renumbered

/-!
# Sections in Context

How a section depends on what stands around it. Two runs of numbering are
compared that come to the same section with different indices behind them. The
sections that come out differ by a constant in the numbers of their footnotes,
and both indices gain the same keys, whatever they held before. Only formal
items of the section itself must not be filed yet, since these would be
replaced.

For documents this is a statement about changes. Another body for one section
leaves the sections before it alone. In those after it the numbers of the
footnotes move by the difference that the new body makes, and nothing else
changes. The proof follows the list of sections, and the list of parts around
it, up to the place of the change.

## Main definitions

* `Index.TakesIn`: An index after a section.
* `FormalItems.LacksItemsOf`: No formal item of a section is filed.
* `Draft.Document.setBody`: A draft with another body for one of its sections.
* `ChangedAt`: Sections that differ at one place, and in footnote numbers after it.

## Theorems

* `Draft.Section.enumerate_takesIn`: What numbering a section leaves behind.
* `Draft.Document.changedAt_numbered`: Another body for one section.
* `Draft.enumerate_context`: What a section and its surroundings have to do with each other.
-/

namespace Manuscript

/-! ### One section -/

theorem formalItemsOf_map_mapNotes (f : FootnoteNumber → FootnoteNumber) (elements : List Element) :
    formalItemsOf (elements.map (Element.mapNotes f)) =
      (formalItemsOf elements).map (FormalItem.mapNotes f) := by
  rw [formalItemsOf, formalItemsOf, List.filterMap_map, List.map_filterMap]
  refine congrArg (List.filterMap · elements) (funext fun e => ?_)
  cases e <;> rfl

namespace Section

/-- The identifiers of a section and of the elements in it. -/
def ids (s : Section) : List String := s.elements.filterMap Element.id?

/-- The places of the formal items in a section. -/
def places (s : Section) : List (String × FormalItemNumber) :=
  (formalItemsOf s.elements).map FormalItem.place

variable (f : FootnoteNumber → FootnoteNumber) (s : Section)

theorem ids_mapNotes : (s.mapNotes f).ids = s.ids := by
  rw [ids, elements_mapNotes, List.filterMap_map, ids]
  exact congrArg (List.filterMap · s.elements) (funext fun e => e.id?_mapNotes f)

theorem places_mapNotes : (s.mapNotes f).places = s.places := by
  rw [places, elements_mapNotes, formalItemsOf_map_mapNotes, List.map_map]
  rfl

theorem length_footnotes_mapNotes : (s.mapNotes f).footnotes.length = s.footnotes.length :=
  List.length_map _

end Section

/-- None of the formal items is one of the section. -/
def FormalItems.LacksItemsOf (t : FormalItems) (number : SectionNumber) : Prop :=
  ∀ place : String × FormalItemNumber, place.2.scope.sectionNumber = number → t.at? place = none

/-- The index `after` comes from `before` by a section. That section is `plain`, which starts to
    count its footnotes from zero, with the footnotes of `before` added to all its numbers. -/
structure Index.TakesIn (before after : Index) (s plain : Section) : Prop where
  added : s = plain.mapNotes (before.footnotes.size + ·)
  subtracted : s.mapNotes (· - before.footnotes.size) = plain
  footnotes : after.footnotes.toList = before.footnotes.toList ++ s.footnotes
  identifiers : Gains before.identifiers.lookup after.identifiers.lookup plain.ids
  formalItems : Gains before.formalItems.at? after.formalItems.at? plain.places

namespace Draft

/-- The blocks of a section are all numbered in it. -/
theorem scope_of_mem_blocks {number : SectionNumber} {k : Nat} {s : Section}
    {b : Manuscript.Block} (h : b ∈ (s.numberFrom number k).blocks) :
    b.scope.sectionNumber = number := by
  have hscope : ∀ {scope k} {blocks : List Block}, b ∈ numberBlocks scope k blocks →
      b.scope = scope := by
    intro scope k blocks hb
    rcases List.mem_iff_getElem?.mp hb with ⟨i, hi⟩
    rw [numberBlocks, getElem?_walk, Option.map_eq_some_iff] at hi
    rcases hi with ⟨c, -, rfl⟩
    exact scope_numberFrom scope _ c
  unfold Manuscript.Section.blocks Section.numberFrom at h
  cases hbody : s.body with
  | content blocks =>
      rw [hbody] at h
      rw [hscope h]
      rfl
  | subsections divisions =>
      rw [hbody] at h
      rcases List.mem_flatMap.mp h with ⟨t, ht, hb⟩
      rcases mem_numberSiblings ht with ⟨_, -, _, _, rfl⟩
      rw [hscope hb]
      rfl

/-- What numbering a section leaves behind is the same everywhere, apart from the footnotes that
    are counted already. -/
theorem Section.enumerate_takesIn {s : Section} {number : SectionNumber} {before after : Index}
    {y : Manuscript.Section} (hlacks : before.formalItems.LacksItemsOf number)
    (h : s.enumerate number before = .ok (y, after)) :
    before.TakesIn after y (s.numberFrom number 0) := by
  rw [enumerate_eq] at h
  cases hg : before.gather (s.numberFrom number before.footnotes.size).notes
      (s.numberFrom number before.footnotes.size).elements with
  | error conflict =>
      rw [hg] at h
      cases h
  | ok index =>
      rw [hg] at h
      cases h
      have hplain := s.renumber_numberFrom (renumbers_sub before.footnotes.size) number
      rcases Index.gather_eq_ok hg with ⟨hids, hnotes, hitems⟩
      refine ⟨(s.renumber_numberFrom (renumbers_add before.footnotes.size 0) number).symm, hplain,
        ?_, ?_, ?_⟩
      · rw [hnotes, Footnotes.toList_extend]
        rfl
      · rw [← hplain, Section.ids_mapNotes]
        exact Identifiers.gains_defineIfAny hids
      · rw [← hplain, Section.places_mapNotes, hitems]
        -- The formal items of a section are among its blocks, and those are numbered in it.
        refine FormalItems.gains_fileAll fun f hf => hlacks f.place ?_
        rw [formalItemsOf_section] at hf
        rcases List.mem_filterMap.mp hf with ⟨b, hb, hfb⟩
        rw [FormalItem.place, ← (Block.formalItem?_eq_some b f hfb).2.1, scope_of_mem_blocks hb]

end Draft

/-! ### One section among others -/

/-- The same sections up to the place `i`. There are sections with `m` and `n` footnotes there,
    and after it the footnote numbers differ by as much. -/
inductive ChangedAt (m n : Nat) : Nat → List Section → List Section → Prop
  | here {y z : Section} {l r : List Section} (hy : y.footnotes.length = m)
      (hz : z.footnotes.length = n)
      (h : l.map (Section.mapNotes (n + ·)) = r.map (Section.mapNotes (m + ·))) :
      ChangedAt m n 0 (y :: l) (z :: r)
  | later (y : Section) {i : Nat} {l r : List Section} (h : ChangedAt m n i l r) :
      ChangedAt m n (i + 1) (y :: l) (y :: r)

namespace ChangedAt

variable {m n i : Nat} {l r : List Section}

theorem append (h : ChangedAt m n i l r) {d e : List Section}
    (hde : d.map (Section.mapNotes (n + ·)) = e.map (Section.mapNotes (m + ·))) :
    ChangedAt m n i (l ++ d) (r ++ e) := by
  induction h with
  | here hy hz h =>
      refine here hy hz ?_
      simp only [List.append_eq, List.map_append, h, hde]
  | later y h ih => exact later y ih

theorem append_left (h : ChangedAt m n i l r) (d : List Section) :
    ChangedAt m n (d.length + i) (d ++ l) (d ++ r) := by
  induction d with
  | nil => exact (Nat.zero_add i).symm ▸ h
  | cons y rest ih =>
      rw [List.length_cons, Nat.add_right_comm]
      exact later y ih

theorem take_eq (h : ChangedAt m n i l r) : l.take i = r.take i := by
  induction h with
  | here hy hz h => rfl
  | later y h ih => exact congrArg (List.cons y) ih

theorem exists_getElem? (h : ChangedAt m n i l r) :
    ∃ y z, l[i]? = some y ∧ r[i]? = some z ∧ y.footnotes.length = m ∧ z.footnotes.length = n := by
  induction h with
  | here hy hz h => exact ⟨_, _, rfl, rfl, hy, hz⟩
  | later y h ih => exact ih

theorem map_drop (h : ChangedAt m n i l r) :
    (l.drop (i + 1)).map (Section.mapNotes (n + ·)) =
      (r.drop (i + 1)).map (Section.mapNotes (m + ·)) := by
  induction h with
  | here hy hz h => exact h
  | later y h ih => exact ih

end ChangedAt

namespace Draft

/-- Another body for the section at a place, counted across parts. -/
def setBodyInParts (body : SectionBody) : Nat → List Part → List Part
  | _, [] => []
  | i, p :: rest =>
    if i < p.sections.length then
      { p with sections := p.sections.modify i fun s => { s with body } } :: rest
    else p :: setBodyInParts body (i - p.sections.length) rest

/-- The draft with another body for its section at the place `i`. Nothing else is changed. -/
def Document.setBody (d : Document) (i : Nat) (body : SectionBody) : Document :=
  match d.body with
  | .parts divisions => { d with body := .parts (setBodyInParts body i divisions) }
  | .sections divisions =>
    { d with body := .sections (divisions.modify i fun s => { s with body }) }

theorem modify_append_left {α : Type} (f : α → α) {i : Nat} {l : List α} (h : i < l.length)
    (r : List α) : (l ++ r).modify i f = l.modify i f ++ r := by
  rcases List.exists_of_modify f h with ⟨before, x, after, rfl, rfl, hl⟩
  rw [hl, List.append_assoc, List.append_assoc, List.modify_eq_take_drop, List.take_left,
    List.drop_left]
  rfl

theorem modify_append_right {α : Type} (f : α → α) {i : Nat} {l : List α} (h : l.length ≤ i)
    (r : List α) : (l ++ r).modify i f = l ++ r.modify (i - l.length) f := by
  induction l generalizing i with
  | nil => rfl
  | cons x rest ih =>
      cases i with
      | zero => cases h
      | succ i =>
          rw [List.length_cons, Nat.add_sub_add_right]
          exact congrArg (List.cons x) (ih (Nat.le_of_succ_le_succ h))

theorem sections_setBodyInParts (body : SectionBody) (i : Nat) (divisions : List Part) :
    (setBodyInParts body i divisions).flatMap (·.sections) =
      (divisions.flatMap (·.sections)).modify i fun s => { s with body } := by
  induction divisions generalizing i with
  | nil => rw [setBodyInParts, List.flatMap_nil, List.modify_nil]
  | cons p rest ih =>
      unfold setBodyInParts
      split
      case isTrue hi =>
        rw [List.flatMap_cons, List.flatMap_cons, modify_append_left _ hi]
      case isFalse hi =>
        rw [List.flatMap_cons, List.flatMap_cons, modify_append_right _ (Nat.le_of_not_lt hi), ih]

/-- The sections are those of the draft, except for one body. -/
theorem Document.sections_setBody (d : Document) (i : Nat) (body : SectionBody) :
    (d.setBody i body).sections = d.sections.modify i fun s => { s with body } := by
  unfold setBody sections
  cases d.body with
  | parts divisions => exact sections_setBodyInParts body i divisions
  | sections divisions => rfl

/-- Siblings that are counted from two numbers on agree after each count is made up for the
    other one. -/
theorem renumber_apart {α β : Type} (held : α → List (Footnote Unit))
    {number : Position → Nat → α → β} {g : (FootnoteNumber → FootnoteNumber) → β → β}
    (hg : ∀ f p k l x, Renumbers f k l → g f (number p k x) = number p l x) {k l m n : Nat}
    (h : n + k = m + l) (i : Nat) (xs : List α) :
    (numberSiblings held number i k xs).map (g (n + ·)) =
      (numberSiblings held number i l xs).map (g (m + ·)) := by
  rw [renumber_numberSiblings (renumbers_add n k) (hg _),
    renumber_numberSiblings (renumbers_add m l) (hg _), h]

theorem length_footnotes_numberFrom (number : SectionNumber) (k : Nat) (s : Section) :
    (s.numberFrom number k).footnotes.length = s.notes.length :=
  length_of_number (s.number_notes number k)

theorem changedAt_numberSections (part? : Option PartNumber) (body : SectionBody) {i j k : Nat}
    {divisions : List Section} {s : Section} (hs : divisions[i]? = some s) :
    ChangedAt s.notes.length body.notes.length i
      (numberSiblings Section.notes (fun p => Section.numberFrom ⟨part?, p⟩) j k divisions)
      (numberSiblings Section.notes (fun p => Section.numberFrom ⟨part?, p⟩) j k
        (divisions.modify i fun s => { s with body })) := by
  induction divisions generalizing i j k with
  | nil => cases hs
  | cons t rest ih =>
      cases i with
      | zero =>
          cases hs
          have hcount : body.notes.length + (k + s.notes.length) =
              s.notes.length + (k + body.notes.length) := by omega
          exact .here (length_footnotes_numberFrom _ _ _) (length_footnotes_numberFrom _ _ _)
            (renumber_apart _ (fun _ p _ _ s h => s.renumber_numberFrom h ⟨part?, p⟩) hcount _ rest)
      | succ i => exact .later _ (ih hs)

theorem length_notes_modify (body : SectionBody) {i : Nat} {divisions : List Section} {s : Section}
    (hs : divisions[i]? = some s) :
    body.notes.length + (divisions.flatMap Section.notes).length =
      s.notes.length +
        ((divisions.modify i fun s => { s with body }).flatMap Section.notes).length := by
  induction divisions generalizing i with
  | nil => cases hs
  | cons t rest ih =>
      cases i with
      | zero =>
          cases hs
          rw [List.modify_zero_cons, List.flatMap_cons, List.flatMap_cons, List.length_append,
            List.length_append]
          exact Nat.add_left_comm _ _ _
      | succ i =>
          have hrest := ih hs
          rw [List.modify_succ_cons, List.flatMap_cons, List.flatMap_cons, List.length_append,
            List.length_append]
          omega

theorem sections_mapParts (f : FootnoteNumber → FootnoteNumber) (divisions : List Manuscript.Part) :
    (divisions.flatMap (·.sections)).map (Section.mapNotes f) =
      (divisions.map (Part.mapNotes f)).flatMap (·.sections) := by
  rw [List.map_flatMap, List.flatMap_map]
  rfl

theorem changedAt_numberParts (body : SectionBody) {i j k : Nat} {divisions : List Part}
    {s : Section} (hs : (divisions.flatMap (·.sections))[i]? = some s) :
    ChangedAt s.notes.length body.notes.length i
      ((numberSiblings Part.notes (fun p => Part.numberFrom ⟨p⟩) j k divisions).flatMap
        (·.sections))
      ((numberSiblings Part.notes (fun p => Part.numberFrom ⟨p⟩) j k
        (setBodyInParts body i divisions)).flatMap (·.sections)) := by
  induction divisions generalizing i j k with
  | nil => cases hs
  | cons p rest ih =>
      rw [List.flatMap_cons] at hs
      unfold setBodyInParts
      split
      -- The section is in this part, so the parts after it are counted from two numbers on.
      case isTrue hi =>
        rw [List.getElem?_append_left hi] at hs
        let q : Part := { p with sections := p.sections.modify i fun s => { s with body } }
        have hcount : body.notes.length + (k + p.notes.length) =
            s.notes.length + (k + q.notes.length) := by
          have hnotes : body.notes.length + p.notes.length = s.notes.length + q.notes.length :=
            length_notes_modify body hs
          omega
        have hrest := congrArg (List.flatMap (·.sections)) (renumber_apart Part.notes
          (fun _ n _ _ p h => p.renumber_numberFrom h ⟨n⟩) hcount (j + 1) rest)
        rw [← sections_mapParts, ← sections_mapParts] at hrest
        exact (changedAt_numberSections (some ⟨.ofIndex j⟩) body hs).append hrest
      case isFalse hi =>
        rw [List.getElem?_append_right (Nat.le_of_not_lt hi)] at hs
        have hlater := (ih (j := j + 1) (k := k + p.notes.length) hs).append_left
          (p.numberFrom ⟨.ofIndex j⟩ k).sections
        have hlength : (p.numberFrom ⟨.ofIndex j⟩ k).sections.length = p.sections.length :=
          length_walk (0, k) p.sections
        rw [hlength, Nat.add_sub_cancel' (Nat.le_of_not_lt hi)] at hlater
        exact hlater

/-- Another body for one section changes that section, and moves the footnote numbers after it. -/
theorem Document.changedAt_numbered {d : Document} {i : Nat} {s : Section}
    (hs : d.sections[i]? = some s) (body : SectionBody) {doc₁ doc₂ : Manuscript.Document}
    (h₁ : d.enumerate = .ok doc₁) (h₂ : (d.setBody i body).enumerate = .ok doc₂) :
    ChangedAt s.notes.length body.notes.length i doc₁.sections doc₂.sections := by
  rw [(enumerate_eq_ok_iff.mp h₁).2, (enumerate_eq_ok_iff.mp h₂).2]
  unfold Manuscript.Document.sections numbered setBody
  unfold sections at hs
  cases hb : d.body with
  | parts divisions =>
      rw [hb] at hs
      exact changedAt_numberParts body hs
  | sections divisions =>
      rw [hb] at hs
      exact changedAt_numberSections none body hs

/-- A section depends on its context by the number of footnotes before it. Wherever it is numbered
    under one number, its footnote numbers are the same after subtracting that count, and it adds
    as many footnotes, the same identifiers and the same places of formal items to what is there,
    all of which is kept. In a document, another body for one section makes no difference to the
    sections before it. Those after it differ by a constant in their footnote numbers, which is the
    difference between what the two bodies hold. -/
theorem enumerate_context :
    (∀ (s : Section) (number : SectionNumber) (before₁ before₂ after₁ after₂ : Index)
      (y₁ y₂ : Manuscript.Section), before₁.formalItems.LacksItemsOf number →
      before₂.formalItems.LacksItemsOf number →
      s.enumerate number before₁ = .ok (y₁, after₁) →
      s.enumerate number before₂ = .ok (y₂, after₂) →
        y₁.mapNotes (· - before₁.footnotes.size) = y₂.mapNotes (· - before₂.footnotes.size) ∧
          y₁.footnotes.length = y₂.footnotes.length ∧
          ∃ plain, before₁.TakesIn after₁ y₁ plain ∧ before₂.TakesIn after₂ y₂ plain) ∧
      ∀ (d : Document) (i : Nat) (body : SectionBody) (doc₁ doc₂ : Manuscript.Document),
        i < d.sections.length → d.enumerate = .ok doc₁ → (d.setBody i body).enumerate = .ok doc₂ →
          doc₁.sections.take i = doc₂.sections.take i ∧
            ∃ y₁ y₂, doc₁.sections[i]? = some y₁ ∧ doc₂.sections[i]? = some y₂ ∧
              (doc₁.sections.drop (i + 1)).map (Section.mapNotes (y₂.footnotes.length + ·)) =
                (doc₂.sections.drop (i + 1)).map (Section.mapNotes (y₁.footnotes.length + ·)) := by
  constructor
  · intro s number before₁ before₂ after₁ after₂ y₁ y₂ hlacks₁ hlacks₂ h₁ h₂
    have t₁ := Section.enumerate_takesIn hlacks₁ h₁
    have t₂ := Section.enumerate_takesIn hlacks₂ h₂
    refine ⟨t₁.subtracted.trans t₂.subtracted.symm, ?_, s.numberFrom number 0, t₁, t₂⟩
    rw [t₁.added, t₂.added, Section.length_footnotes_mapNotes, Section.length_footnotes_mapNotes]
  · intro d i body doc₁ doc₂ hi h₁ h₂
    have hchanged := Document.changedAt_numbered (List.getElem?_eq_getElem hi) body h₁ h₂
    rcases hchanged.exists_getElem? with ⟨y₁, y₂, hy₁, hy₂, hm, hn⟩
    refine ⟨hchanged.take_eq, y₁, y₂, hy₁, hy₂, ?_⟩
    rw [hm, hn]
    exact hchanged.map_drop

/-- A section that could be added to the handbook. -/
def appendix : Section :=
  ⟨"Appendix", some "appendix", none, false, .content [
    .formalItem ⟨"Sketch", "figure", some "sketch", none, .verbatim ⟨"/\\", none⟩⟩,
    .paragraph ⟨none, none, [.inline (.footnote ⟨(), [.text "aside"]⟩)]⟩]⟩

/-- A shorter body for the first section of the handbook. -/
def brief : SectionBody :=
  .content [.paragraph ⟨none, none, [.inline (.footnote ⟨(), [.text "only"]⟩)]⟩]

theorem enumerate_handbook_context : ∃ doc changed : Manuscript.Document, ∃ y z after₁ after₂,
    Document.handbook.enumerate = .ok doc ∧
      (Document.handbook.setBody 0 brief).enumerate = .ok changed ∧
      appendix.enumerate ⟨none, .first⟩ .empty = .ok (y, after₁) ∧
      appendix.enumerate ⟨none, .first⟩ doc.index = .ok (z, after₂) ∧
      y.mapNotes (· - 0) = z.mapNotes (· - doc.index.footnotes.size) ∧
      (doc.sections.drop 1).map (Section.mapNotes (1 + ·)) =
        (changed.sections.drop 1).map (Section.mapNotes (2 + ·)) := by
  rcases Document.enumerate_handbook with ⟨doc, h⟩
  rcases exists_of_isOk (show (Document.handbook.setBody 0 brief).enumerate.isOk = true by
    decide +kernel) with ⟨changed, hchanged⟩
  rcases exists_of_isOk (show (appendix.enumerate ⟨none, .first⟩ .empty).isOk = true by
    decide +kernel) with ⟨⟨y, after₁⟩, hy⟩
  have hboth : (Document.handbook.enumerate >>= fun doc =>
      appendix.enumerate ⟨none, .first⟩ doc.index).isOk = true := by
    decide +kernel
  rw [h] at hboth
  rcases exists_of_isOk hboth with ⟨⟨z, after₂⟩, hz⟩
  -- The sections of the handbook all lie in parts, and so do its formal items.
  have hlacks : doc.index.formalItems.LacksItemsOf ⟨none, .first⟩ := by
    intro place hplace
    have hitems : doc.index.formalItems =
        FormalItems.empty.fileAll Document.handbook.numbered.elements :=
      (Index.gather_eq_ok (Document.enumerate_eq_ok_iff.mp h).1).2.2
    have hgains : Gains FormalItems.empty.at? doc.index.formalItems.at? _ :=
      hitems ▸ FormalItems.gains_fileAll fun _ _ => rfl
    have hparts : ∀ place ∈
        (formalItemsOf Document.handbook.numbered.elements).map FormalItem.place,
        place.2.scope.sectionNumber ≠ ⟨none, .first⟩ := by
      decide +kernel
    cases hfind : doc.index.formalItems.at? place with
    | none => rfl
    | some f =>
        rcases (hgains.found place).mp (hfind ▸ rfl) with hempty | hmem
        · cases hempty
        · exact absurd hplace (hparts place hmem)
  have hold : doc.sections[0]?.map (·.footnotes.length) = some 2 := by
    rw [(Document.enumerate_eq_ok_iff.mp h).2]
    rfl
  have hnew : changed.sections[0]?.map (·.footnotes.length) = some 1 := by
    rw [(Document.enumerate_eq_ok_iff.mp hchanged).2]
    rfl
  rcases enumerate_context with ⟨hsection, hdocument⟩
  rcases hdocument _ 0 brief doc changed (by decide) h hchanged with ⟨-, y₁, y₂, hy₁, hy₂, hlater⟩
  have htwo : y₁.footnotes.length = 2 := Option.some.inj (by rw [← hold, hy₁]; rfl)
  have hone : y₂.footnotes.length = 1 := Option.some.inj (by rw [← hnew, hy₂]; rfl)
  rw [htwo, hone] at hlater
  exact ⟨doc, changed, y, z, after₁, after₂, h, hchanged, hy, hz,
    (hsection _ _ _ _ _ _ _ _ (fun _ _ => rfl) hlacks hy hz).1, hlater⟩

end Draft

end Manuscript
