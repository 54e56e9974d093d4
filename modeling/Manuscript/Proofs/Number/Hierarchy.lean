import Manuscript.Proofs.Number.Comparison

/-!
# Comparison and the Hierarchy

The order of numbers follows the hierarchy that the numbers spell out. Within one
shape it is the order of the lists of components. Across shapes it is still a
total order, and an absent component comes before every present one, so a
section's own items come before those of its subsections.

A number is a number of something larger with one more position, and comparison
looks at the larger thing first. So what holds of sections is carried on to
subsections, scopes and items, each time by one more component at the end of two
lists that are equally long. They are because numbers of one shape have equally
many components.

## Main definitions

* `Shape`: Which components of a number are there.
* `TotallyOrdered`: Comparison is a total order.
* `OrderedByComponents`: The order follows shapes and components.
* `ItemNumber.OrderedBySections`: The order of items follows that of sections.

## Theorems

* `totallyOrdered`: Lawful comparisons are total orders.
* `compare_snoc`: Equally long lists compare before what comes after them.
* `SectionNumber.compare_components`: Sections of one shape compare like their components.
* `Scope.compare_components`: So do scopes.
* `ItemNumber.compare_hierarchy`: The order of all families of numbers.
-/

namespace Manuscript

open Std

/-! ### Total orders -/

/-- Comparison is total, antisymmetric and transitive, and does not depend on the side from which
    it is looked at. -/
structure TotallyOrdered (α : Type) [Ord α] : Prop where
  total (a b : α) : (compare a b).isLE ∨ (compare b a).isLE
  antisymm (a b : α) : (compare a b).isLE → (compare b a).isLE → a = b
  trans (a b c : α) : (compare a b).isLE → (compare b c).isLE → (compare a c).isLE
  swap (a b : α) : compare a b = (compare b a).swap

theorem totallyOrdered (α : Type) [Ord α] [TransOrd α] [LawfulEqOrd α] : TotallyOrdered α where
  total a b := by
    rw [OrientedOrd.eq_swap (a := b)]
    cases compare a b with
    | lt => exact .inl rfl
    | eq => exact .inl rfl
    | gt => exact .inr rfl
  antisymm _ _ hab hba := LawfulEqOrd.eq_of_compare (OrientedCmp.isLE_antisymm hab hba)
  trans _ _ _ := TransCmp.isLE_trans
  swap _ _ := OrientedOrd.eq_swap

/-! ### Shapes -/

/-- Which of the components that can be absent are there. -/
structure Shape where
  hasPart : Bool
  hasSubsection : Bool
deriving DecidableEq, Repr

namespace Shape

/-- How many components a section or subsection of the shape has. -/
def depth (s : Shape) : Nat := s.hasPart.toNat + 1 + s.hasSubsection.toNat

end Shape

def SectionNumber.shape (n : SectionNumber) : Shape := ⟨n.part?.isSome, false⟩

def SubsectionNumber.shape (n : SubsectionNumber) : Shape := ⟨n.part?.isSome, true⟩

def Scope.shape (s : Scope) : Shape := ⟨s.part?.isSome, s.subsection?.isSome⟩

def ItemNumber.shape {c : ItemClass} (n : ItemNumber c) : Shape := n.scope.shape

theorem SectionNumber.length_components (n : SectionNumber) :
    n.components.length = n.shape.depth := by
  rcases n with ⟨part?, position⟩
  cases part? with
  | none => rfl
  | some p => rfl

theorem SubsectionNumber.length_components (n : SubsectionNumber) :
    n.components.length = n.shape.depth := by
  rw [components, List.length_append, SectionNumber.length_components]
  rfl

theorem Scope.length_components (s : Scope) : s.components.length = s.shape.depth := by
  cases s with
  | ofSection n => exact n.length_components
  | ofSubsection n => exact n.length_components

/-! ### Components -/

theorem compare_singleton (m n : Nat) : compare [m] [n] = compare m n := by
  rw [List.compare_cons_cons, List.compare_nil_nil, Ordering.then_eq]

/-- What comes after two equally long lists decides if the lists are the same. -/
theorem compare_snoc {l r : List Nat} (h : l.length = r.length) (m n : Nat) :
    compare (l ++ [m]) (r ++ [n]) = (compare l r).then (compare m n) := by
  induction l generalizing r with
  | nil =>
      rw [List.eq_nil_of_length_eq_zero h.symm, List.compare_nil_nil, Ordering.eq_then]
      exact compare_singleton m n
  | cons k l ih =>
      cases r with
      | nil => cases h
      | cons j r =>
          rw [List.cons_append, List.cons_append, List.compare_cons_cons, List.compare_cons_cons,
            ih (Nat.succ.inj h), Ordering.then_assoc]

theorem SectionNumber.compare_components {a b : SectionNumber} (h : a.shape = b.shape) :
    compare a b = compare a.components b.components := by
  rcases a with ⟨part?, position⟩
  rcases b with ⟨other?, position'⟩
  cases part? with
  | none =>
      cases other? with
      | none => exact (compare_singleton position.val position'.val).symm
      | some q => cases h
  | some p =>
      cases other? with
      | none => cases h
      | some q =>
          -- Parts have one component, and the positions come after them.
          have hlists := compare_snoc (l := [p.position.val]) (r := [q.position.val]) rfl
            position.val position'.val
          rw [compare_singleton] at hlists
          exact hlists.symm

theorem SubsectionNumber.compare_components {a b : SubsectionNumber} (h : a.shape = b.shape) :
    compare a b = compare a.components b.components := by
  have hparent : a.parent.shape = b.parent.shape :=
    congrArg (Shape.mk · false) (congrArg Shape.hasPart h)
  have hlength : a.parent.components.length = b.parent.components.length := by
    rw [SectionNumber.length_components, SectionNumber.length_components, hparent]
  rw [components, components, compare_snoc hlength,
    ← SectionNumber.compare_components hparent]
  rfl

theorem Scope.compare_components {a b : Scope} (h : a.shape = b.shape) :
    compare a b = compare a.components b.components := by
  cases a with
  | ofSection m =>
      cases b with
      | ofSection n => exact Ordering.then_eq.trans (SectionNumber.compare_components h)
      | ofSubsection n => cases congrArg Shape.hasSubsection h
  | ofSubsection m =>
      cases b with
      | ofSection n => cases congrArg Shape.hasSubsection h
      | ofSubsection n => exact SubsectionNumber.compare_components h

theorem ItemNumber.compare_components {c : ItemClass} {a b : ItemNumber c}
    (h : a.shape = b.shape) : compare a b = compare a.components b.components := by
  have hlength : a.scope.components.length = b.scope.components.length := by
    rw [Scope.length_components, Scope.length_components]
    exact congrArg Shape.depth h
  rw [components, components, compare_snoc hlength, ← Scope.compare_components h]
  rfl

/-! ### Numbers of different shapes -/

theorem SectionNumber.compare_of_absent {a b : SectionNumber} (ha : a.shape.hasPart = false)
    (hb : b.shape.hasPart = true) : compare a b = .lt := by
  rcases a with ⟨part?, position⟩
  rcases b with ⟨other?, position'⟩
  cases part? with
  | none =>
      cases other? with
      | none => cases hb
      | some q => rfl
  | some p => cases ha

namespace ItemNumber

variable {c : ItemClass} {a b : ItemNumber c}

theorem compare_of_scope (h : compare a.scope b.scope = .lt) : compare a b = .lt :=
  compareLex_of_lt h

/-- Items in different sections compare like the sections. -/
theorem compare_of_section_ne (h : a.scope.sectionNumber ≠ b.scope.sectionNumber) :
    compare a b = compare a.scope.sectionNumber b.scope.sectionNumber := by
  have hsection : compare a.scope.sectionNumber b.scope.sectionNumber ≠ .eq :=
    fun heq => h (LawfulEqOrd.eq_of_compare heq)
  have hscope : compare a.scope b.scope = compare a.scope.sectionNumber b.scope.sectionNumber :=
    compareLex_of_ne hsection
  rw [← hscope] at hsection ⊢
  exact compareLex_of_ne hsection

/-- Within a section its own items come before those of its subsections. -/
theorem compare_of_section_eq (h : a.scope.sectionNumber = b.scope.sectionNumber)
    (ha : a.shape.hasSubsection = false) (hb : b.shape.hasSubsection = true) :
    compare a b = .lt := by
  refine compare_of_scope ((compareLex_of_eq (compareOn_of_eq h)).trans ?_)
  rw [compareOn, Option.not_isSome_iff_eq_none.mp (Bool.eq_false_iff.mp ha)]
  rcases Option.isSome_iff_exists.mp hb with ⟨p, hp⟩
  rw [hp]
  rfl

end ItemNumber

/-! ### All families -/

/-- The order of a family of numbers. It is total, and only numbers of the same shape with the same
    components are equal. Numbers of one shape compare like their components, and those without a
    part come before those with one. -/
structure OrderedByComponents (α : Type) [Ord α] (shape : α → Shape) (components : α → List Nat) :
    Prop extends TotallyOrdered α where
  compare_eq_iff (a b : α) :
    compare a b = .eq ↔ shape a = shape b ∧ components a = components b
  compare_components (a b : α) :
    shape a = shape b → compare a b = compare (components a) (components b)
  compare_of_absent (a b : α) :
    (shape a).hasPart = false → (shape b).hasPart = true → compare a b = .lt

theorem OrderedByComponents.of_compare {α : Type} [Ord α] [TransOrd α] [LawfulEqOrd α]
    {shape : α → Shape} {components : α → List Nat}
    (hshape : ∀ a b, shape a = shape b → compare a b = compare (components a) (components b))
    (habsent : ∀ a b, (shape a).hasPart = false → (shape b).hasPart = true →
      compare a b = .lt) :
    OrderedByComponents α shape components where
  toTotallyOrdered := totallyOrdered α
  compare_eq_iff a b := by
    constructor
    · intro h
      rw [LawfulEqOrd.eq_of_compare h]
      exact ⟨rfl, rfl⟩
    · rintro ⟨hsame, hcomponents⟩
      rw [hshape a b hsame, hcomponents]
      exact ReflOrd.compare_self
  compare_components := hshape
  compare_of_absent := habsent

/-- Shape and components determine the number. -/
theorem OrderedByComponents.eq_of_components {α : Type} [Ord α] [LawfulEqOrd α]
    {shape : α → Shape} {components : α → List Nat} (h : OrderedByComponents α shape components)
    {a b : α} (hshape : shape a = shape b) (hcomponents : components a = components b) : a = b :=
  LawfulEqOrd.eq_of_compare ((h.compare_eq_iff a b).mpr ⟨hshape, hcomponents⟩)

/-- How the order of items follows their sections. -/
structure ItemNumber.OrderedBySections (c : ItemClass) : Prop where
  compare_of_section_ne (a b : ItemNumber c) :
    a.scope.sectionNumber ≠ b.scope.sectionNumber →
      compare a b = compare a.scope.sectionNumber b.scope.sectionNumber
  compare_of_section_eq (a b : ItemNumber c) :
    a.scope.sectionNumber = b.scope.sectionNumber →
      a.shape.hasSubsection = false → b.shape.hasSubsection = true → compare a b = .lt

theorem SectionNumber.orderedByComponents :
    OrderedByComponents SectionNumber SectionNumber.shape SectionNumber.components :=
  .of_compare (fun _ _ => compare_components) fun _ _ => compare_of_absent

theorem SubsectionNumber.orderedByComponents :
    OrderedByComponents SubsectionNumber SubsectionNumber.shape SubsectionNumber.components :=
  .of_compare (fun _ _ => compare_components) fun _ _ ha hb =>
    compare_of_parent (SectionNumber.compare_of_absent ha hb)

theorem ItemNumber.orderedByComponents (c : ItemClass) :
    OrderedByComponents (ItemNumber c) ItemNumber.shape ItemNumber.components :=
  .of_compare (fun _ _ => compare_components) fun _ _ ha hb =>
    compare_of_scope (Scope.compare_of_section (SectionNumber.compare_of_absent ha hb))

theorem ItemNumber.orderedBySections (c : ItemClass) : OrderedBySections c where
  compare_of_section_ne _ _ := ItemNumber.compare_of_section_ne
  compare_of_section_eq _ _ := ItemNumber.compare_of_section_eq

/-- The order of all families of numbers follows the hierarchy of the document. -/
theorem ItemNumber.compare_hierarchy :
    OrderedByComponents SectionNumber SectionNumber.shape SectionNumber.components ∧
      OrderedByComponents SubsectionNumber SubsectionNumber.shape SubsectionNumber.components ∧
      (OrderedByComponents ParagraphNumber ItemNumber.shape ItemNumber.components ∧
        OrderedBySections .paragraph) ∧
      OrderedByComponents FormalItemNumber ItemNumber.shape ItemNumber.components ∧
        OrderedBySections .formalItem :=
  ⟨SectionNumber.orderedByComponents, SubsectionNumber.orderedByComponents,
    ⟨orderedByComponents .paragraph, orderedBySections .paragraph⟩,
    orderedByComponents .formalItem, orderedBySections .formalItem⟩

end Manuscript
