import Manuscript.Proofs.Number.Printed
import Manuscript.Proofs.Numbering.Identifiers
import Manuscript.Proofs.Numbering.Kinds

/-!
# Descriptions of Elements

An error or a listing names an element by its class and its printed number. In
one document no two elements are named alike, so the name is enough to tell
which element is meant.

Printing forgets the shape of a number. A paragraph of a section in a part and
a paragraph of a subsection in a document without parts may both be `1.2.1`.
They do not occur in one document, however. There, the numbers in a division
extend that of the division, and the numbers of divisions next to each other
are equally long and differ. So elements that share a number are blocks of one
scope, and those are counted by class.

The argument goes from the blocks outwards. At each level some siblings are put
together, `Contents.siblings`, and then the division that holds them is added,
`Contents.close`.

## Main definitions

* `Element.Apart`: Two elements differ in their class or in their number.
* `Contents`: What a division holds: numbers that go on from that of the division.
* `Branch`: A division with what it holds.

## Theorems

* `Element.describe_inj`: A description tells the class and the components of a number.
* `Contents.siblings`: Siblings with all they hold are the contents of a division.
* `Document.contents_elements`: All elements of a document are apart.
* `Draft.Document.enumerate_describe`: No two elements are described alike.
-/

namespace Manuscript

/-! ### Classes and numbers -/

namespace Element

/-- Elements of one class have different numbers. -/
def Apart (a b : Element) : Prop := a.elementClass = b.elementClass → a.components ≠ b.components

theorem describe_inj {a b : Element} (h : a.describe = b.describe) :
    a.elementClass = b.elementClass ∧ a.components = b.components := by
  rw [← describe_site a, ← describe_site b] at h
  rcases ElementClass.name_append_inj h with ⟨hclass, htext⟩
  exact ⟨hclass, dotted_inj htext⟩

end Element

theorem Block.elementClass_element (b : Block) :
    b.element.elementClass = b.itemClass.element :=
  congrArg Site.elementClass (Draft.site_element b)

theorem Block.components_element (b : Block) :
    b.element.components = b.scope.components ++ [b.position.val] :=
  congrArg Site.components (Draft.site_element b)

theorem ItemClass.element_inj {c k : ItemClass} (h : c.element = k.element) : c = k := by
  cases c <;> cases k <;> first | rfl | cases h

/-! ### Divisions and what they hold -/

/-- The contents of a division: their numbers go on from that of the division, and they are told
    apart. -/
structure Contents (number : List Nat) (elements : List Element) : Prop where
  inside : ∀ e ∈ elements, ∃ n, number ++ [n] <+: e.components
  apart : elements.Pairwise Element.Apart

/-- A division with its contents: no number leaves that of the division. -/
structure Branch (number : List Nat) (elements : List Element) : Prop where
  within : ∀ e ∈ elements, number <+: e.components
  apart : elements.Pairwise Element.Apart

namespace Contents

variable {number : List Nat}

/-- The contents of a division, and then the division. -/
theorem close {elements : List Element} (h : Contents number elements) {e : Element}
    (he : e.components = number) : Branch number (elements ++ [e]) := by
  constructor
  · intro x hx
    rcases List.mem_append.mp hx with hx | hx
    · rcases h.inside x hx with ⟨n, hn⟩
      exact (List.prefix_append number [n]).trans hn
    · have hself : x.components = number := by rw [List.mem_singleton.mp hx, he]
      exact hself ▸ List.prefix_rfl
  · refine List.pairwise_append.mpr ⟨h.apart, List.pairwise_singleton _ _, ?_⟩
    intro x hx y hy _ heq
    -- The number of the division is shorter than any in it.
    rcases h.inside x hx with ⟨n, hn⟩
    have hlength := hn.length_le
    rw [heq, List.mem_singleton.mp hy, he, List.length_append, List.length_singleton] at hlength
    omega

/-- Siblings that are counted from one, each with all it holds. -/
theorem siblings {α : Type} {xs : List α} {elements : α → List Element}
    (h : ∀ (i : Nat) (x : α), xs[i]? = some x → Branch (number ++ [i + 1]) (elements x)) :
    Contents number (xs.flatMap elements) := by
  constructor
  · intro e he
    rcases List.mem_flatMap.mp he with ⟨x, hx, hex⟩
    rcases List.mem_iff_getElem?.mp hx with ⟨i, hi⟩
    exact ⟨i + 1, (h i x hi).within e hex⟩
  · refine List.pairwise_flatMap.mpr ⟨?_, ?_⟩
    · intro x hx
      rcases List.mem_iff_getElem?.mp hx with ⟨i, hi⟩
      exact (h i x hi).apart
    · refine pairwise_of_getElem? fun i j x y hi hj hij a ha b hb _ heq => ?_
      -- A number of both siblings would begin with the numbers of both, which are equally long.
      have hx := (h i x hi).within a ha
      have hy := (h j y hj).within b hb
      rw [heq] at hx
      have hlength : (number ++ [i + 1]).length = (number ++ [j + 1]).length := by
        rw [List.length_append, List.length_append, List.length_singleton, List.length_singleton]
      have hsame := (List.prefix_of_prefix_length_le hx hy (Nat.le_of_eq hlength)).eq_of_length hlength
      have hplace := List.cons.inj (List.append_cancel_left hsame)
      omega

end Contents

/-! ### From the blocks outwards -/

theorem BlocksInPlace.contents {scope : Scope} {blocks : List Block}
    (h : BlocksInPlace scope blocks) : Contents scope.components (blocks.map Block.element) := by
  constructor
  · intro e he
    rcases List.mem_map.mp he with ⟨b, hb, rfl⟩
    have hnumber : b.element.components = scope.components ++ [b.position.val] := by
      rw [b.components_element, h.scope_eq hb]
    exact ⟨b.position.val, hnumber ▸ List.prefix_rfl⟩
  · refine List.pairwise_map.mpr (List.Pairwise.imp_of_mem ?_ h.pairwise_position)
    intro a b ha hb hlt hclass heq
    rw [a.elementClass_element, b.elementClass_element] at hclass
    rw [a.components_element, b.components_element, h.scope_eq ha, h.scope_eq hb] at heq
    have hposition := List.cons.inj (List.append_cancel_left heq)
    have := hlt (ItemClass.element_inj hclass)
    omega

theorem Subsection.InPlace.branch {parent : SectionNumber} {i : Nat} {s : Subsection}
    (h : s.InPlace parent i) : Branch (parent.components ++ [i + 1]) s.elements := by
  have hnumber : s.number.components = parent.components ++ [i + 1] := by
    rw [SubsectionNumber.components, h.parent, h.position]
  rw [← hnumber]
  exact h.content.contents.close rfl

theorem SectionBody.InPlace.contents {number : SectionNumber} {body : SectionBody}
    (h : body.InPlace number) : Contents number.components body.elements := by
  cases body with
  | content blocks => exact BlocksInPlace.contents h
  | subsections divisions => exact Contents.siblings fun i s hs => (h i s hs).branch

theorem Section.InPlace.branch {part? : Option PartNumber} {i : Nat} {s : Section}
    (h : s.InPlace part? i) :
    Branch ((part?.map (·.position.val)).toList ++ [i + 1]) s.elements := by
  have hnumber : s.number.components = (part?.map (·.position.val)).toList ++ [i + 1] := by
    rw [SectionNumber.components, h.part?, h.position]
  rw [← hnumber]
  exact h.body.contents.close rfl

theorem Part.InPlace.branch {i : Nat} {p : Part} (h : p.InPlace i) :
    Branch ([] ++ [i + 1]) p.elements := by
  have hnumber : p.number.components = [i + 1] := by
    rw [PartNumber.components, h.position]
  have hsections : Contents p.number.components (p.sections.flatMap Section.elements) :=
    Contents.siblings fun j s hs => (h.sections j s hs).branch
  rw [List.nil_append, ← hnumber]
  exact hsections.close rfl

theorem Document.contents_elements {doc : Document} (h : doc.body.InPlace) :
    Contents [] doc.elements := by
  unfold Document.elements
  cases hb : doc.body with
  | parts divisions =>
      rw [hb] at h
      exact Contents.siblings fun i p hp => (h i p hp).branch
  | sections divisions =>
      rw [hb] at h
      exact Contents.siblings fun i s hs => (h i s hs).branch

namespace Draft

variable {d : Document} {doc : Manuscript.Document}

/-- Any two elements of a numbered document have different descriptions. -/
theorem Document.enumerate_describe (hd : d.WithinLimit) (h : d.enumerate = .ok doc) :
    doc.elements.Pairwise fun a b => a.describe ≠ b.describe := by
  refine (Document.contents_elements (inPlace_of_enumerate hd h)).apart.imp ?_
  intro a b hapart hsame
  rcases Element.describe_inj hsame with ⟨hclass, hcomponents⟩
  exact hapart hclass hcomponents

/-- Numbers alone do not tell elements apart: the handbook gives `1.1.1` to a paragraph and to a
    formal item. -/
theorem Document.enumerate_handbook_describe : handbook.WithinLimit ∧
    ∃ doc, handbook.enumerate = .ok doc ∧
      ¬(doc.elements.map Element.number).Nodup ∧
      doc.elements.Pairwise fun a b => a.describe ≠ b.describe := by
  have hlimit : handbook.WithinLimit := by decide
  have hnumbers : ¬(handbook.numbered.elements.map Element.number).Nodup := by decide +kernel
  rcases enumerate_handbook with ⟨doc, h⟩
  refine ⟨hlimit, doc, h, ?_, enumerate_describe hlimit h⟩
  rw [(enumerate_eq_ok_iff.mp h).2]
  exact hnumbers

end Draft

end Manuscript
