import Manuscript.Number.Item
import Manuscript.Number.Segment

/-!
# The Depth of Numbers

Every number but that of a footnote spells out a place in the hierarchy of the
document: it is a list of components from the outermost division in. How many
there are is the depth of the number. It is one for a part and up to four for
an item.

The element that is numbered has a position of its own, which is the last
component, and every component is a position. So no number is without
components, and no component is zero. `Hierarchical` asks for both, once for
all families, since printed numbers could not be told apart otherwise.

## Main definitions

* `Hierarchical`: Numbers that are made up of components.
* `depth`: How many components a number has.

## Theorems

* `pos_of_mem_snoc`: One more position leaves all components positive.
-/

namespace Manuscript

/-- The families of numbers that are made up of components. -/
class Hierarchical (α : Type) where
  /-- The components from the outermost in. -/
  components : α → List Nat
  /-- The numbered element has a component of its own. -/
  components_ne_nil (n : α) : components n ≠ []
  /-- Components count from one. -/
  components_pos (n : α) : ∀ k ∈ components n, 0 < k

/-- How many components the number has. -/
def depth {α : Type} [Hierarchical α] (n : α) : Nat := (Hierarchical.components n).length

theorem pos_of_mem_snoc {outer : List Nat} (h : ∀ k ∈ outer, 0 < k) (p : Position) :
    ∀ k ∈ outer ++ [p.val], 0 < k := by
  intro k hk
  rcases List.mem_append.mp hk with hk | hk
  · exact h k hk
  · rw [List.mem_singleton.mp hk]
    exact p.pos

namespace PartNumber

instance : Hierarchical PartNumber where
  components := components
  components_ne_nil n := List.cons_ne_nil n.position.val []
  components_pos n := by
    intro k hk
    rw [List.mem_singleton.mp hk]
    exact n.position.pos

end PartNumber

namespace SectionNumber

instance : Hierarchical SectionNumber where
  components := components
  components_ne_nil n := List.concat_ne_nil n.position.val _
  components_pos n := by
    refine pos_of_mem_snoc (fun k hk => ?_) n.position
    rcases Option.map_eq_some_iff.mp (Option.mem_toList.mp hk) with ⟨p, -, rfl⟩
    exact p.position.pos

end SectionNumber

namespace SubsectionNumber

instance : Hierarchical SubsectionNumber where
  components := components
  components_ne_nil n := List.concat_ne_nil n.position.val _
  components_pos n := pos_of_mem_snoc (Hierarchical.components_pos n.parent) n.position

end SubsectionNumber

namespace Scope

instance : Hierarchical Scope where
  components := components
  components_ne_nil
    | ofSection n => Hierarchical.components_ne_nil n
    | ofSubsection n => Hierarchical.components_ne_nil n
  components_pos
    | ofSection n => Hierarchical.components_pos n
    | ofSubsection n => Hierarchical.components_pos n

end Scope

namespace ItemNumber

instance {c : ItemClass} : Hierarchical (ItemNumber c) where
  components := components
  components_ne_nil n := List.concat_ne_nil n.position.val _
  components_pos n := pos_of_mem_snoc (Hierarchical.components_pos n.scope) n.position

end ItemNumber

namespace SegmentNumber

instance : Hierarchical SegmentNumber where
  components := components
  components_ne_nil
    | ofPart n => Hierarchical.components_ne_nil n
    | ofSection n => Hierarchical.components_ne_nil n
  components_pos
    | ofPart n => Hierarchical.components_pos n
    | ofSection n => Hierarchical.components_pos n

end SegmentNumber

end Manuscript
