import Manuscript.Number.Item
import Std.Data.ExtTreeMap

/-!
# The Order of Numbers

Comparison of numbers is a total order that tells different numbers apart.
Each family compares by its fields, one after the other, and a field-by-field
comparison inherits both properties from its fields. The instances therefore
climb from positions up to items.

They are what lets an ordered map be keyed by numbers.

## Main definitions

The instances of `Std.TransOrd` and `Std.LawfulEqOrd` for positions, parts,
sections, subsections, scopes and items.

## Theorems

* `eq_of_compareLex`: A two-field comparison that answers equal does so for
  both fields.
-/

namespace Manuscript

open Std

theorem eq_of_compareLex {α β : Type} {cmp₁ cmp₂ : α → β → Ordering} {a : α} {b : β}
    (h : compareLex cmp₁ cmp₂ a b = .eq) : cmp₁ a b = .eq ∧ cmp₂ a b = .eq := by
  simpa [compareLex, Ordering.then_eq_eq] using h

instance : TransOrd Position := inferInstanceAs (TransCmp (compareOn Position.val))

instance : LawfulEqOrd Position where
  eq_of_compare h := Position.ext (LawfulEqOrd.eq_of_compare (α := Nat) h)

instance : TransOrd PartNumber := inferInstanceAs (TransCmp (compareOn PartNumber.position))

instance : LawfulEqOrd PartNumber where
  eq_of_compare {a b} h := by
    cases a; cases b
    exact congrArg PartNumber.mk (LawfulEqOrd.eq_of_compare h)

instance : TransOrd SectionNumber :=
  inferInstanceAs
    (TransCmp (compareLex (compareOn SectionNumber.part?) (compareOn SectionNumber.position)))

instance : LawfulEqOrd SectionNumber where
  eq_of_compare {a b} h := by
    cases a; cases b
    obtain ⟨h₁, h₂⟩ := eq_of_compareLex h
    exact congr (congrArg SectionNumber.mk (LawfulEqOrd.eq_of_compare h₁))
      (LawfulEqOrd.eq_of_compare h₂)

instance : TransOrd SubsectionNumber :=
  inferInstanceAs
    (TransCmp (compareLex (compareOn SubsectionNumber.parent)
      (compareOn SubsectionNumber.position)))

instance : LawfulEqOrd SubsectionNumber where
  eq_of_compare {a b} h := by
    cases a; cases b
    obtain ⟨h₁, h₂⟩ := eq_of_compareLex h
    exact congr (congrArg SubsectionNumber.mk (LawfulEqOrd.eq_of_compare h₁))
      (LawfulEqOrd.eq_of_compare h₂)

instance : TransOrd Scope :=
  inferInstanceAs
    (TransCmp (compareLex (compareOn Scope.sectionNumber) (compareOn Scope.subsection?)))

instance : LawfulEqOrd Scope where
  eq_of_compare {a b} h := by
    obtain ⟨h₁, h₂⟩ := eq_of_compareLex h
    have hs : a.sectionNumber = b.sectionNumber := LawfulEqOrd.eq_of_compare h₁
    have hp : a.subsection? = b.subsection? := LawfulEqOrd.eq_of_compare h₂
    cases a <;> cases b <;>
      simp_all [Scope.sectionNumber, Scope.subsection?, SubsectionNumber.ext_iff]

instance {c : ItemClass} : TransOrd (ItemNumber c) :=
  inferInstanceAs
    (TransCmp (compareLex (compareOn ItemNumber.scope) (compareOn ItemNumber.position)))

instance {c : ItemClass} : LawfulEqOrd (ItemNumber c) where
  eq_of_compare {a b} h := by
    cases a; cases b
    obtain ⟨h₁, h₂⟩ := eq_of_compareLex h
    exact congr (congrArg ItemNumber.mk (LawfulEqOrd.eq_of_compare h₁))
      (LawfulEqOrd.eq_of_compare h₂)

end Manuscript
