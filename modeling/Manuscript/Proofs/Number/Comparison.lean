import Manuscript.Number.Order

/-!
# Comparing Numbers by their Components

When one number comes before another, read off their components. The first
component that differs decides, and components are looked at from the
outermost in. What lies further in does not matter then, so a section that
comes before another does so with all that it holds.

## Theorems

* `SectionNumber.compare_of_position`: Sections of one part compare like their positions.
* `SectionNumber.compare_of_part`: Sections of different parts compare like the parts.
* `SubsectionNumber.compare_of_parent`: Subsections of different sections compare like the sections.
* `SubsectionNumber.compare_of_position`: Subsections of one section compare like their positions.
* `Scope.compare_of_section`: Scopes in different sections compare like the sections.
* `Scope.compare_of_position`: Subsections of one section compare like their positions.
-/

namespace Manuscript

open Std

theorem Position.compare_of_lt {p q : Position} (h : p.val < q.val) : compare p q = .lt :=
  Nat.compare_eq_lt.mpr h

/-- The first of two fields decides if it differs. -/
theorem compareLex_of_lt {α : Type} {cmp₁ cmp₂ : α → α → Ordering} {a b : α}
    (h : cmp₁ a b = .lt) : compareLex cmp₁ cmp₂ a b = .lt := by
  rw [compareLex, h]
  rfl

/-- The first of two fields decides, either way, unless it agrees. -/
theorem compareLex_of_ne {α : Type} {cmp₁ cmp₂ : α → α → Ordering} {a b : α}
    (h : cmp₁ a b ≠ .eq) : compareLex cmp₁ cmp₂ a b = cmp₁ a b := by
  rw [compareLex]
  cases hfirst : cmp₁ a b with
  | lt => rfl
  | eq => exact absurd hfirst h
  | gt => rfl

/-- The second of two fields decides if the first agrees. -/
theorem compareLex_of_eq {α : Type} {cmp₁ cmp₂ : α → α → Ordering} {a b : α}
    (h : cmp₁ a b = .eq) : compareLex cmp₁ cmp₂ a b = cmp₂ a b := by
  rw [compareLex, h]
  rfl

theorem compareOn_of_eq {α β : Type} [Ord β] [ReflOrd β] {f : α → β} {a b : α} (h : f a = f b) :
    compareOn f a b = .eq := by
  rw [compareOn, h, ReflOrd.compare_self]

namespace SectionNumber

theorem compare_of_position {a b : SectionNumber} (hpart : a.part? = b.part?)
    (h : a.position.val < b.position.val) : compare a b = .lt :=
  (compareLex_of_eq (compareOn_of_eq hpart)).trans (Position.compare_of_lt h)

theorem compare_of_part {a b : SectionNumber} {p q : PartNumber} (ha : a.part? = some p)
    (hb : b.part? = some q) (h : p.position.val < q.position.val) : compare a b = .lt := by
  refine compareLex_of_lt ?_
  rw [compareOn, ha, hb]
  exact Position.compare_of_lt h

end SectionNumber

namespace SubsectionNumber

theorem compare_of_parent {a b : SubsectionNumber} (h : compare a.parent b.parent = .lt) :
    compare a b = .lt :=
  compareLex_of_lt h

theorem compare_of_position {a b : SubsectionNumber} (hparent : a.parent = b.parent)
    (h : a.position.val < b.position.val) : compare a b = .lt :=
  (compareLex_of_eq (compareOn_of_eq hparent)).trans (Position.compare_of_lt h)

end SubsectionNumber

namespace Scope

theorem compare_of_section {a b : Scope} (h : compare a.sectionNumber b.sectionNumber = .lt) :
    compare a b = .lt :=
  compareLex_of_lt h

theorem compare_of_position {m n : SubsectionNumber} (hparent : m.parent = n.parent)
    (h : m.position.val < n.position.val) :
    compare (Scope.ofSubsection m) (Scope.ofSubsection n) = .lt := by
  have hsection : compareOn sectionNumber (.ofSubsection m) (.ofSubsection n) = .eq :=
    compareOn_of_eq hparent
  exact (compareLex_of_eq hsection).trans (Position.compare_of_lt h)

end Scope

end Manuscript
