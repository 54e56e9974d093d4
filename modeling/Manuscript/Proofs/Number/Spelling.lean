import Manuscript.Number.Depth
import Manuscript.Proofs.Number.Hierarchy
import Manuscript.Proofs.Number.Printed
import Manuscript.Proofs.Text.Numeral
import Mathlib.Data.List.Forall2

/-!
# Printed Numbers Spell out their Components

A printed number is taken apart by splitting it at its dots. Each piece is a
decimal numeral without a leading zero, and it stands for one component, so
there are as many pieces as the number is deep. Components are positive, which
is why a numeral for them never starts with a zero, and then there is one
numeral only for each of them. So the printed number is not just one text that
spells out the components but the only one.

What a text does not tell is the shape. The same components may belong to
numbers of different shapes, which then print alike, and a part prints like a
section in no part. Among the numbers of one shape the text determines the
number.

## Main definitions

* `Numeral.StandsFor`: A numeral without a leading zero, and the number it stands for.
* `pieces`: What stands between the dots of a text.
* `Spells`: A text whose pieces stand for given components.
* `SpelledOut`: How a family of numbers is printed.

## Theorems

* `Numeral.standsFor_iff`: Each positive number has one numeral without a leading zero.
* `spells_iff`: Only their printed form spells out positive components.
* `SpelledOut.of_components`: A family is spelled out if shape and components determine a number.
* `Hierarchical.text_spelledOut`: All families of numbers are spelled out.
-/

namespace Manuscript

/-! ### Numerals -/

/-- Decimal digits, the first of which is not a zero, and the number they are read as. -/
structure Numeral.StandsFor (piece : List Char) (n : Nat) : Prop where
  isDecimal : IsDecimal piece
  head?_ne : piece.head? ≠ some '0'
  read?_eq : read? 10 piece = some n

theorem Numeral.standsFor_iff {piece : List Char} {n : Nat} :
    StandsFor piece n ↔ 0 < n ∧ piece = Nat.toDigits 10 n := by
  constructor
  · rintro ⟨hdecimal, hhead, hread⟩
    rcases read?_eq_some_iff.mp hread with ⟨-, rfl⟩
    -- The first digit is not zero, so neither is what the digits count.
    exact ⟨value_pos hdecimal hhead, (toDigits_value hdecimal hhead).symm⟩
  · rintro ⟨hpos, rfl⟩
    exact ⟨isDecimal_toDigits n, head?_toDigits hpos, read?_toDigits n⟩

/-! ### Texts with dots -/

/-- What stands between the dots of a text. -/
def pieces (text : String) : List (List Char) := text.toList.splitOn '.'

/-- Text that spells out components: its pieces stand for them, one for each and in the same
    order. -/
def Spells (text : String) (components : List Nat) : Prop :=
  List.Forall₂ Numeral.StandsFor (pieces text) components

/-- A text is put together again from its pieces. -/
theorem eq_dotted_of_pieces {text : String} {components : List Nat}
    (h : pieces text = components.map (Nat.toDigits 10)) : text = dotted components := by
  rw [← String.toList_inj, toList_dotted, ← h]
  exact (List.intercalate_splitOn '.').symm

/-- Positive components are spelled out by their printed form and by no other text. -/
theorem spells_iff {components : List Nat} (hne : components ≠ [])
    (hpos : ∀ k ∈ components, 0 < k) {text : String} :
    Spells text components ↔ text = dotted components := by
  constructor
  · intro h
    -- There is no choice of the numeral for a component.
    have hnumerals : List.Forall₂ (fun piece k => piece = Nat.toDigits 10 k)
        (pieces text) components :=
      h.imp fun _ _ hpiece => (Numeral.standsFor_iff.mp hpiece).2
    refine eq_dotted_of_pieces ?_
    rwa [← List.forall₂_eq_eq_eq, List.forall₂_map_right_iff]
  · rintro rfl
    rw [Spells, pieces, splitOn_dotted hne, List.forall₂_map_left_iff, List.forall₂_same]
    exact fun k hk => Numeral.standsFor_iff.mpr ⟨hpos k hk, rfl⟩

/-! ### Families of numbers -/

open Hierarchical

/-- How a family of numbers is printed, where `shape` says which components a number has. -/
structure SpelledOut (α : Type) [Hierarchical α] {σ : Type} (shape : α → σ)
    (text : α → String) : Prop where
  /-- What is printed spells out the components, and nothing else does. -/
  spells_iff (n : α) (printed : String) : Spells printed (components n) ↔ printed = text n
  length_pieces (n : α) : (pieces (text n)).length = depth n
  text_eq_iff (a b : α) : text a = text b ↔ components a = components b
  eq_of_text (a b : α) : shape a = shape b → text a = text b → a = b

theorem SpelledOut.of_components {α σ : Type} [Hierarchical α] {shape : α → σ} {text : α → String}
    (htext : ∀ n, text n = dotted (components n))
    (heq : ∀ a b, shape a = shape b → components a = components b → a = b) :
    SpelledOut α shape text := by
  have hspells (n : α) (printed : String) :
      Spells printed (components n) ↔ printed = text n := by
    rw [htext]
    exact Manuscript.spells_iff (components_ne_nil n) (components_pos n)
  have hcomponents (a b : α) : text a = text b ↔ components a = components b := by
    rw [htext, htext]
    exact ⟨dotted_inj, congrArg dotted⟩
  exact {
    spells_iff := hspells
    length_pieces := fun n => ((hspells n (text n)).mpr rfl).length_eq
    text_eq_iff := hcomponents
    eq_of_text := fun a b hshape htext => heq a b hshape ((hcomponents a b).mp htext) }

theorem PartNumber.components_inj {a b : PartNumber} (h : a.components = b.components) : a = b :=
  congrArg PartNumber.mk (Position.ext (List.singleton_inj.mp h))

/-- The shape of a segment's number: that of its section, unless the segment is a part. -/
def SegmentNumber.shape (n : SegmentNumber) : Option Shape := n.asSection?.map SectionNumber.shape

theorem SegmentNumber.eq_of_components {a b : SegmentNumber} (hshape : a.shape = b.shape)
    (hcomponents : a.components = b.components) : a = b := by
  -- The shape tells a part from a section in no part, which has as many components.
  cases a with
  | ofPart p =>
      cases b with
      | ofPart q => exact congrArg ofPart (PartNumber.components_inj hcomponents)
      | ofSection n => cases hshape
  | ofSection m =>
      cases b with
      | ofPart q => cases hshape
      | ofSection n =>
          exact congrArg ofSection
            (SectionNumber.orderedByComponents.eq_of_components (Option.some.inj hshape) hcomponents)

/-- Printed numbers of all families determine their components. Parts have one shape only. -/
theorem Hierarchical.text_spelledOut :
    SpelledOut PartNumber (fun _ => ()) PartNumber.text ∧
      SpelledOut SectionNumber SectionNumber.shape SectionNumber.text ∧
      SpelledOut SubsectionNumber SubsectionNumber.shape SubsectionNumber.text ∧
      SpelledOut ParagraphNumber ItemNumber.shape ItemNumber.text ∧
      SpelledOut FormalItemNumber ItemNumber.shape ItemNumber.text ∧
      SpelledOut SegmentNumber SegmentNumber.shape SegmentNumber.text := by
  have hitems (c : ItemClass) : SpelledOut (ItemNumber c) ItemNumber.shape ItemNumber.text :=
    .of_components (fun _ => rfl) fun _ _ => (ItemNumber.orderedByComponents c).eq_of_components
  exact ⟨.of_components (fun _ => rfl) fun _ _ _ => PartNumber.components_inj,
    .of_components (fun _ => rfl) fun _ _ => SectionNumber.orderedByComponents.eq_of_components,
    .of_components (fun _ => rfl) fun _ _ => SubsectionNumber.orderedByComponents.eq_of_components,
    hitems .paragraph, hitems .formalItem,
    .of_components (fun _ => rfl) fun _ _ => SegmentNumber.eq_of_components⟩

/-- A paragraph of a section in a part prints like one of a subsection in no part. -/
example (p s k : Position) :
    ((Scope.ofSection (PartNumber.sectionAt ⟨p⟩ s)).paragraph k).text =
      ((Scope.ofSubsection (SectionNumber.subsectionAt ⟨none, p⟩ s)).paragraph k).text := rfl

end Manuscript
