import Manuscript.Proofs.Numbering.Gathering

/-!
# Numbers by Position

Every element of a numbered document carries the number of its place: parts,
sections and subsections count among their siblings, and a paragraph or a
formal item counts among those of its class in the section or subsection that
directly holds it, whatever stands between them.

`Body.InPlace` says this of a numbered document alone, without its draft and
without the walk that built it. That it holds is read off `numberSiblings` and
`numberBlocks`, whose elements know the state of the walk: for siblings the
state counts those before, for blocks it counts each class.

Positions stop at a limit, so a list must not be longer than that. The bound
is on each list by itself; how many elements there are in all does not matter.

## Main definitions

* `Body.InPlace`: All numbers of a document are those of their places.
* `Section.Shaped`: The numbers in a section have the shape that fits.
* `Draft.Document.WithinLimit`: No list of a draft is longer than the limit.

## Theorems

* `Draft.numberBlocks_inPlace`: Blocks are numbered by class in their scope.
* `Draft.Body.numberFrom_inPlace`: What numbering builds is in place.
* `Document.shaped_of_inPlace`: Numbers in place have the shape that fits.
* `Draft.Document.enumerate_inPlace`: A numbered draft is in place.
-/

namespace Manuscript

/-! ### Documents with their numbers in place -/

/-- Each block names the scope that holds it, and is counted among those of its class. -/
def BlocksInPlace (scope : Scope) (blocks : List Block) : Prop :=
  ∀ (i : Nat) (b : Block), blocks[i]? = some b →
    b.scope = scope ∧ b.position.val = Block.rank b.itemClass blocks i + 1

/-- The subsection at place `i` of a section, with what it holds. -/
structure Subsection.InPlace (parent : SectionNumber) (i : Nat) (s : Subsection) : Prop where
  parent : s.number.parent = parent
  position : s.number.position.val = i + 1
  content : BlocksInPlace (.ofSubsection s.number) s.content

/-- The body of a section with its numbers in place. -/
def SectionBody.InPlace (number : SectionNumber) : SectionBody → Prop
  | .content blocks => BlocksInPlace (.ofSection number) blocks
  | .subsections divisions =>
    ∀ (i : Nat) (s : Subsection), divisions[i]? = some s → s.InPlace number i

/-- The section at place `i` of a part, or of a document without parts, with what it holds. -/
structure Section.InPlace (part? : Option PartNumber) (i : Nat) (s : Section) : Prop where
  part? : s.number.part? = part?
  position : s.number.position.val = i + 1
  body : s.body.InPlace s.number

/-- The part at place `i`, with what it holds. -/
structure Part.InPlace (i : Nat) (p : Part) : Prop where
  position : p.number.position.val = i + 1
  sections : ∀ (j : Nat) (s : Section), p.sections[j]? = some s → s.InPlace (some p.number) j

/-- Everything in the body of a document carries the number of its place. -/
def Body.InPlace : Body → Prop
  | .parts divisions => ∀ (i : Nat) (p : Part), divisions[i]? = some p → p.InPlace i
  | .sections divisions =>
    ∀ (i : Nat) (s : Section), divisions[i]? = some s → s.InPlace none i

/-- Whether a section is divided into subsections. -/
def Section.isDivided (s : Section) : Bool :=
  match s.body with
  | .content _ => false
  | .subsections _ => true

/-- The number of a section names a part if the document has parts. Subsections extend it, and
    blocks count in a subsection if the section is divided. -/
structure Section.Shaped (hasParts : Bool) (s : Section) : Prop where
  number : s.number.part?.isSome = hasParts
  subsections : ∀ t ∈ s.subsections, t.number.parent = s.number
  blocks : ∀ b ∈ s.blocks,
    b.scope.sectionNumber = s.number ∧ b.scope.subsection?.isSome = s.isDivided

/-! ### Drafts within the limit -/

namespace Draft

/-- No list in the body of a section is longer than the limit. -/
def SectionBody.WithinLimit : SectionBody → Prop
  | .content blocks => blocks.length ≤ Position.limit
  | .subsections divisions =>
    divisions.length ≤ Position.limit ∧ ∀ s ∈ divisions, s.content.length ≤ Position.limit

/-- No list of sections or within them is longer than the limit. -/
def SectionsWithinLimit (divisions : List Section) : Prop :=
  divisions.length ≤ Position.limit ∧ ∀ s ∈ divisions, s.body.WithinLimit

/-- No list of parts, sections, subsections or blocks of the body is longer than the limit. -/
def Body.WithinLimit : Body → Prop
  | .parts divisions =>
    divisions.length ≤ Position.limit ∧ ∀ p ∈ divisions, SectionsWithinLimit p.sections
  | .sections divisions => SectionsWithinLimit divisions

/-- No list of parts, sections, subsections or blocks of a draft is longer than the limit. -/
def Document.WithinLimit (d : Document) : Prop := d.body.WithinLimit

instance : DecidablePred SectionBody.WithinLimit
  | .content _ => inferInstanceAs (Decidable (_ ≤ _))
  | .subsections _ => inferInstanceAs (Decidable (_ ∧ _))

instance : DecidablePred SectionsWithinLimit := fun _ => inferInstanceAs (Decidable (_ ∧ _))

instance : DecidablePred Body.WithinLimit
  | .parts _ => inferInstanceAs (Decidable (_ ∧ _))
  | .sections divisions => inferInstanceAs (Decidable (SectionsWithinLimit divisions))

instance : DecidablePred Document.WithinLimit := fun d =>
  inferInstanceAs (Decidable d.body.WithinLimit)

/-! ### What the walks build is in place -/

theorem numberBlocks_inPlace (scope : Scope) (k : Nat) {blocks : List Block}
    (hl : blocks.length ≤ Position.limit) : BlocksInPlace scope (numberBlocks scope k blocks) := by
  intro i y hy
  rw [numberBlocks, getElem?_walk, Option.map_eq_some_iff] at hy
  rcases hy with ⟨b, hb, rfl⟩
  refine ⟨scope_numberFrom scope _ b, ?_⟩
  -- A rank is smaller than the number of blocks, so the position is not cut off.
  rcases List.getElem?_eq_some_iff.mp hb with ⟨hi, _⟩
  have hlt : Block.rank b.itemClass blocks i < Position.limit :=
    ItemClass.rank_lt (by rwa [List.length_map]) (by rwa [List.length_map])
  rw [position_numberFrom, itemClass_numberFrom, rank_numberBlocks, Position.val_ofIndex hlt]

theorem SectionBody.numberFrom_inPlace (number : SectionNumber) (k : Nat) {body : SectionBody}
    (hl : body.WithinLimit) : (body.numberFrom number k).InPlace number := by
  cases body with
  | content blocks => exact numberBlocks_inPlace (.ofSection number) k hl
  | subsections divisions =>
      intro i y hy
      rcases getElem?_numberSiblings hy with ⟨hi, s, hs, j, rfl⟩
      exact ⟨rfl, Position.val_ofIndex (Nat.lt_of_lt_of_le hi hl.1),
        numberBlocks_inPlace _ j (hl.2 s hs)⟩

theorem numberSections_inPlace (part? : Option PartNumber) (k : Nat) {divisions : List Section}
    (hl : SectionsWithinLimit divisions) {i : Nat} {y : Manuscript.Section}
    (hy : (numberSections part? k divisions)[i]? = some y) : y.InPlace part? i := by
  rcases getElem?_numberSiblings hy with ⟨hi, s, hs, j, rfl⟩
  exact ⟨rfl, Position.val_ofIndex (Nat.lt_of_lt_of_le hi hl.1),
    SectionBody.numberFrom_inPlace _ j (hl.2 s hs)⟩

theorem Body.numberFrom_inPlace (k : Nat) {body : Body} (hl : body.WithinLimit) :
    (body.numberFrom k).InPlace := by
  cases body with
  | parts divisions =>
      intro i y hy
      rcases getElem?_numberSiblings hy with ⟨hi, p, hp, j, rfl⟩
      exact ⟨Position.val_ofIndex (Nat.lt_of_lt_of_le hi hl.1),
        fun n s hs => numberSections_inPlace _ j (hl.2 p hp) hs⟩
  | sections divisions => exact fun i s hs => numberSections_inPlace none k hl hs

end Draft

/-! ### Shapes -/

theorem Section.shaped_of_inPlace {part? : Option PartNumber} {i : Nat} {s : Section}
    (h : s.InPlace part? i) : s.Shaped part?.isSome := by
  refine ⟨by rw [h.part?], ?_, ?_⟩
  · intro t ht
    have hbody := h.body
    unfold Section.subsections at ht
    cases hb : s.body with
    | content blocks =>
        rw [hb] at ht
        exact absurd ht List.not_mem_nil
    | subsections divisions =>
        rw [hb] at ht hbody
        rcases List.mem_iff_getElem?.mp ht with ⟨j, hj⟩
        exact (hbody j t hj).parent
  · intro b hmem
    have hbody := h.body
    unfold Section.blocks at hmem
    unfold Section.isDivided
    cases hb : s.body with
    | content blocks =>
        rw [hb] at hmem hbody
        rcases List.mem_iff_getElem?.mp hmem with ⟨j, hj⟩
        rw [(hbody j b hj).1]
        exact ⟨rfl, rfl⟩
    | subsections divisions =>
        rw [hb] at hmem hbody
        -- The block counts in its subsection, and the subsection extends the section.
        rcases List.mem_flatMap.mp hmem with ⟨t, ht, hbt⟩
        rcases List.mem_iff_getElem?.mp ht with ⟨n, hn⟩
        rcases List.mem_iff_getElem?.mp hbt with ⟨j, hj⟩
        rw [((hbody n t hn).content j b hj).1]
        exact ⟨(hbody n t hn).parent, rfl⟩

/-- Every section of a document in place is in place itself, and names a part if the document has
    parts. -/
theorem Document.exists_inPlace {doc : Document} (h : doc.body.InPlace) {s : Section}
    (hs : s ∈ doc.sections) : ∃ part? i, s.InPlace part? i ∧ part?.isSome = doc.hasParts := by
  unfold Document.sections at hs
  unfold Document.hasParts
  cases hb : doc.body with
  | parts divisions =>
      rw [hb] at hs h
      rcases List.mem_flatMap.mp hs with ⟨p, hp, hsp⟩
      rcases List.mem_iff_getElem?.mp hp with ⟨i, hi⟩
      rcases List.mem_iff_getElem?.mp hsp with ⟨j, hj⟩
      exact ⟨some p.number, j, (h i p hi).sections j s hj, rfl⟩
  | sections divisions =>
      rw [hb] at hs h
      rcases List.mem_iff_getElem?.mp hs with ⟨j, hj⟩
      exact ⟨none, j, h j s hj, rfl⟩

theorem Document.shaped_of_inPlace {doc : Document} (h : doc.body.InPlace) :
    ∀ s ∈ doc.sections, s.Shaped doc.hasParts := by
  intro s hs
  rcases Document.exists_inPlace h hs with ⟨part?, i, hplace, hparts⟩
  rw [← hparts]
  exact Section.shaped_of_inPlace hplace

theorem Draft.Document.inPlace_of_enumerate {d : Document} {doc : Manuscript.Document}
    (hd : d.WithinLimit) (h : d.enumerate = .ok doc) : doc.body.InPlace := by
  rw [(enumerate_eq_ok_iff.mp h).2]
  exact Body.numberFrom_inPlace 0 hd

/-- A draft within the limit is numbered by position, and all numbers have the shape that the
    document and the section ask for. -/
theorem Draft.Document.enumerate_inPlace {d : Document} {doc : Manuscript.Document}
    (hd : d.WithinLimit) (h : d.enumerate = .ok doc) :
    doc.body.InPlace ∧ ∀ s ∈ doc.sections, s.Shaped doc.hasParts := by
  have hplace := inPlace_of_enumerate hd h
  exact ⟨hplace, Document.shaped_of_inPlace hplace⟩

theorem Draft.Document.enumerate_handbook_inPlace :
    handbook.WithinLimit ∧ ∃ doc, handbook.enumerate = .ok doc ∧
      doc.elements.map Element.describe =
        ["paragraph 1.1.1", "formal item 1.1.1", "paragraph 1.1.2", "section 1.1",
          "formal item 1.2.1.1", "paragraph 1.2.1.1", "subsection 1.2.1", "section 1.2", "part 1",
          "paragraph 2.1.1", "section 2.1", "part 2"] ∧
      doc.body.InPlace ∧ ∀ s ∈ doc.sections, s.Shaped doc.hasParts := by
  have hlimit : handbook.WithinLimit := by decide
  have hnumbers : handbook.numbered.elements.map Element.describe =
      ["paragraph 1.1.1", "formal item 1.1.1", "paragraph 1.1.2", "section 1.1",
        "formal item 1.2.1.1", "paragraph 1.2.1.1", "subsection 1.2.1", "section 1.2", "part 1",
        "paragraph 2.1.1", "section 2.1", "part 2"] := by
    decide +kernel
  rcases enumerate_handbook with ⟨doc, h⟩
  refine ⟨hlimit, doc, h, ?_, enumerate_inPlace hlimit h⟩
  rw [(enumerate_eq_ok_iff.mp h).2]
  exact hnumbers

end Manuscript
