import Manuscript.Proofs.Index.FormalItems
import Manuscript.Proofs.Number.Comparison
import Manuscript.Proofs.Numbering.Positions

/-!
# Document Order is Number Order

In a document that is numbered by position, what stands further back has the
greater number. This is shown from the inside out: for the items of a scope,
for the scopes of a section, for the sections of a part and for the parts.
At each of these levels the elements before an element have smaller positions
in the component that they do not share, and comparison looks at that one.

Paragraphs and formal items are counted apart, so an item is only compared
with others of its class.

## Main definitions

* `Document.blocks`: The paragraphs and formal items of a document.
* `Block.Before`: The number of one block is smaller than that of another.

## Theorems

* `BlocksInPlace.pairwise_position`: Positions grow within a class.
* `BlocksInPlace.pairwise`: Items of a scope are in the order of their numbers.
* `Document.pairwise_sections`: Sections of a document are.
* `Document.pairwise_blocks`: Items of a document are.
* `Document.pairwise_ofClass`: So are the items of one class by themselves.
* `Document.pairwise_formalItems`: Formal items of a document are.
-/

namespace Manuscript

/-- The paragraphs and formal items of a document. -/
def Document.blocks (doc : Document) : List Block := doc.sections.flatMap Section.blocks

/-- The block as a formal item, if it is one. -/
def Block.formalItem? : Block → Option FormalItem
  | .paragraph _ => none
  | .formalItem f => some f

/-- The scope and the position of `a` come before those of `b`. -/
def Block.Before (a b : Block) : Prop :=
  compareLex (compareOn Block.scope) (compareOn Block.position) a b = .lt

/-- A relation between all earlier and all later places holds along the list. -/
theorem pairwise_of_getElem? {α : Type} {R : α → α → Prop} {xs : List α}
    (h : ∀ (i j : Nat) x y, xs[i]? = some x → xs[j]? = some y → i < j → R x y) :
    xs.Pairwise R := by
  rw [List.pairwise_iff_getElem]
  intro i j hi hj hij
  exact h i j xs[i] xs[j] (List.getElem?_eq_getElem hi) (List.getElem?_eq_getElem hj) hij

/-! ### Items of a section -/

/-- Within its class an item has a greater position than all items before it. -/
theorem BlocksInPlace.pairwise_position {scope : Scope} {blocks : List Block}
    (h : BlocksInPlace scope blocks) :
    blocks.Pairwise fun a b => a.itemClass = b.itemClass → a.position.val < b.position.val := by
  refine pairwise_of_getElem? fun i j a b ha hb hij hclass => ?_
  have hi : (blocks.map Block.itemClass)[i]? = some a.itemClass := by
    rw [List.getElem?_map, ha, Option.map_some]
  -- The earlier item is itself counted in the rank of the later one.
  have hrank := ItemClass.rank_lt_rank hi hij
  rw [(h i a ha).2, (h j b hb).2, ← hclass]
  exact Nat.add_lt_add_right hrank 1

theorem BlocksInPlace.scope_eq {scope : Scope} {blocks : List Block}
    (h : BlocksInPlace scope blocks) {b : Block} (hb : b ∈ blocks) : b.scope = scope := by
  rcases List.mem_iff_getElem?.mp hb with ⟨i, hi⟩
  exact (h i b hi).1

theorem BlocksInPlace.pairwise {scope : Scope} {blocks : List Block}
    (h : BlocksInPlace scope blocks) :
    blocks.Pairwise fun a b => a.itemClass = b.itemClass → a.Before b := by
  refine List.Pairwise.imp_of_mem ?_ h.pairwise_position
  intro a b ha hb hlt hclass
  have hscope : a.scope = b.scope := (h.scope_eq ha).trans (h.scope_eq hb).symm
  exact (compareLex_of_eq (compareOn_of_eq hscope)).trans
    (Position.compare_of_lt (hlt hclass))

theorem Block.before_of_scope {a b : Block} (h : compare a.scope b.scope = .lt) : a.Before b :=
  compareLex_of_lt h

theorem Section.pairwise_blocks {part? : Option PartNumber} {i : Nat} {s : Section}
    (h : s.InPlace part? i) :
    s.blocks.Pairwise fun a b => a.itemClass = b.itemClass → a.Before b := by
  have hbody := h.body
  unfold Section.blocks
  cases hb : s.body with
  | content blocks =>
      rw [hb] at hbody
      exact BlocksInPlace.pairwise hbody
  | subsections divisions =>
      rw [hb] at hbody
      refine List.pairwise_flatMap.mpr ⟨?_, ?_⟩
      · intro t ht
        rcases List.mem_iff_getElem?.mp ht with ⟨n, hn⟩
        exact (hbody n t hn).content.pairwise
      · refine pairwise_of_getElem? fun m n t u ht hu hmn a ha b hb _ => ?_
        -- Items of different subsections differ in the position of the subsection.
        have hparent : t.number.parent = u.number.parent :=
          (hbody m t ht).parent.trans (hbody n u hu).parent.symm
        have hposition : t.number.position.val < u.number.position.val := by
          rw [(hbody m t ht).position, (hbody n u hu).position]
          omega
        refine Block.before_of_scope ?_
        rw [(hbody m t ht).content.scope_eq ha, (hbody n u hu).content.scope_eq hb]
        exact Scope.compare_of_position hparent hposition

/-! ### Sections and items of a document -/

theorem pairwise_sectionsInPlace {part? : Option PartNumber} {divisions : List Section}
    (h : ∀ i s, divisions[i]? = some s → Section.InPlace part? i s) :
    divisions.Pairwise fun s t => compare s.number t.number = .lt := by
  refine pairwise_of_getElem? fun i j s t hs ht hij => ?_
  have hpart : s.number.part? = t.number.part? := (h i s hs).part?.trans (h j t ht).part?.symm
  refine SectionNumber.compare_of_position hpart ?_
  rw [(h i s hs).position, (h j t ht).position]
  omega

theorem Document.pairwise_sections {doc : Document} (h : doc.body.InPlace) :
    doc.sections.Pairwise fun s t => compare s.number t.number = .lt := by
  unfold Document.sections
  cases hb : doc.body with
  | parts divisions =>
      rw [hb] at h
      refine List.pairwise_flatMap.mpr ⟨?_, ?_⟩
      · intro p hp
        rcases List.mem_iff_getElem?.mp hp with ⟨i, hi⟩
        exact pairwise_sectionsInPlace (h i p hi).sections
      -- Sections of different parts differ in the part.
      · refine pairwise_of_getElem? fun i j p q hp hq hij s hs t ht => ?_
        rcases List.mem_iff_getElem?.mp hs with ⟨m, hm⟩
        rcases List.mem_iff_getElem?.mp ht with ⟨n, hn⟩
        have hparts : p.number.position.val < q.number.position.val := by
          rw [(h i p hp).position, (h j q hq).position]
          omega
        exact SectionNumber.compare_of_part ((h i p hp).sections m s hm).part?
          ((h j q hq).sections n t hn).part? hparts
  | sections divisions =>
      rw [hb] at h
      exact pairwise_sectionsInPlace h

theorem Document.pairwise_blocks {doc : Document} (h : doc.body.InPlace) :
    doc.blocks.Pairwise fun a b => a.itemClass = b.itemClass → a.Before b := by
  have hshaped := Document.shaped_of_inPlace h
  refine List.pairwise_flatMap.mpr ⟨?_, ?_⟩
  · intro s hs
    rcases Document.exists_inPlace h hs with ⟨part?, i, hplace, -⟩
    exact Section.pairwise_blocks hplace
  -- Items of different sections differ in the section.
  · refine List.Pairwise.imp_of_mem ?_ (Document.pairwise_sections h)
    intro s t hs ht hlt a ha b hb _
    refine Block.before_of_scope (Scope.compare_of_section ?_)
    rw [((hshaped s hs).blocks a ha).1, ((hshaped t ht).blocks b hb).1]
    exact hlt

/-- The items of one class are in the order of their numbers, whatever stands between them. -/
theorem Document.pairwise_ofClass {c : ItemClass} {α : Type} {item? : Block → Option α}
    {number : α → ItemNumber c}
    (hitem : ∀ b x, item? b = some x →
      b.itemClass = c ∧ b.scope = (number x).scope ∧ b.position = (number x).position)
    {doc : Document} (h : doc.body.InPlace) :
    (doc.blocks.filterMap item?).Pairwise fun x y => compare (number x) (number y) = .lt := by
  rw [List.pairwise_filterMap]
  refine (Document.pairwise_blocks h).imp ?_
  intro a b hbefore x hx y hy
  rcases hitem a x hx with ⟨hca, hsa, hpa⟩
  rcases hitem b y hy with ⟨hcb, hsb, hpb⟩
  -- Items of one class compare by scope and position, as blocks do.
  have hlt : (compare a.scope b.scope).then (compare a.position b.position) = .lt :=
    hbefore (hca.trans hcb.symm)
  rw [hsa, hsb, hpa, hpb] at hlt
  exact hlt

/-! ### Formal items of a document -/

theorem Block.formalItem?_eq_some (b : Block) (f : FormalItem) (h : b.formalItem? = some f) :
    b.itemClass = .formalItem ∧ b.scope = f.number.scope ∧ b.position = f.number.position := by
  cases b with
  | paragraph p => cases h
  | formalItem g =>
      cases h
      exact ⟨rfl, rfl, rfl⟩

theorem formalItemsOf_append (d e : List Element) :
    formalItemsOf (d ++ e) = formalItemsOf d ++ formalItemsOf e :=
  List.filterMap_append

theorem formalItemsOf_flatMap {α : Type} {elements : α → List Element} {blocks : α → List Block}
    (h : ∀ x, formalItemsOf (elements x) = (blocks x).filterMap Block.formalItem?) (xs : List α) :
    formalItemsOf (xs.flatMap elements) = (xs.flatMap blocks).filterMap Block.formalItem? := by
  rw [formalItemsOf, List.filterMap_flatMap, List.filterMap_flatMap]
  exact congrArg (List.flatMap · xs) (funext h)

theorem formalItemsOf_blocks (blocks : List Block) :
    formalItemsOf (blocks.map Block.element) = blocks.filterMap Block.formalItem? := by
  rw [formalItemsOf, List.filterMap_map]
  refine congrArg (List.filterMap · blocks) (funext fun b => ?_)
  cases b with
  | paragraph p => rfl
  | formalItem f => rfl

theorem formalItemsOf_subsection (s : Subsection) :
    formalItemsOf s.elements = s.content.filterMap Block.formalItem? := by
  rw [Subsection.elements, formalItemsOf_append, formalItemsOf_blocks]
  exact List.append_nil _

theorem formalItemsOf_section (s : Section) :
    formalItemsOf s.elements = s.blocks.filterMap Block.formalItem? := by
  rw [Section.elements, formalItemsOf_append]
  refine (List.append_nil _).trans ?_
  unfold Section.blocks
  cases s.body with
  | content blocks => exact formalItemsOf_blocks blocks
  | subsections divisions => exact formalItemsOf_flatMap formalItemsOf_subsection divisions

theorem formalItemsOf_part (p : Part) :
    formalItemsOf p.elements = (p.sections.flatMap Section.blocks).filterMap Block.formalItem? := by
  rw [Part.elements, formalItemsOf_append]
  exact (List.append_nil _).trans (formalItemsOf_flatMap formalItemsOf_section p.sections)

/-- The formal items among the elements are those among the blocks, in the same order. -/
theorem Document.formalItemsOf_elements (doc : Document) :
    formalItemsOf doc.elements = doc.blocks.filterMap Block.formalItem? := by
  unfold Document.elements Document.blocks Document.sections
  cases doc.body with
  | parts divisions =>
      rw [List.flatMap_assoc]
      exact formalItemsOf_flatMap formalItemsOf_part divisions
  | sections divisions => exact formalItemsOf_flatMap formalItemsOf_section divisions

theorem Document.pairwise_formalItems {doc : Document} (h : doc.body.InPlace) :
    (formalItemsOf doc.elements).Pairwise fun f g => compare f.number g.number = .lt := by
  rw [Document.formalItemsOf_elements]
  exact Document.pairwise_ofClass Block.formalItem?_eq_some h

end Manuscript
