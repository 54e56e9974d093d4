import Manuscript.Numbered.Element
import Manuscript.Number.Order
import Std.Data.ExtTreeMap

/-!
# Formal Items by Kind

The formal items of a document, grouped by kind and, within a kind, ordered by
number whatever the order in which they were filed.

## Main definitions

* `FormalItems`: The formal items by kind.
* `FormalItems.insert`: Files a formal item under a kind.
* `FormalItems.byKind`: The formal items of one kind.
-/

namespace Manuscript

/-- Formal items by kind and number. -/
structure FormalItems where
  groups : Std.ExtTreeMap String (Std.ExtTreeMap FormalItemNumber FormalItem)

namespace FormalItems

/-- No formal items. -/
def empty : FormalItems := ⟨∅⟩

/-- Files an item under `kind` at its number. -/
def insert (t : FormalItems) (kind : String) (item : FormalItem) : FormalItems :=
  ⟨t.groups.insert kind ((t.groups.getD kind ∅).insert item.number item)⟩

/-- The items filed under `kind` in number order; none for a kind that is not in use. -/
def byKind (t : FormalItems) (kind : String) : List FormalItem :=
  match t.groups[kind]? with
  | some group => group.toList.map (·.2)
  | none => []

/-- The kinds in use, in the order of their code points. -/
def kinds (t : FormalItems) : List String := t.groups.toList.map (·.1)

/-- How many items there are. -/
def size (t : FormalItems) : Nat := t.groups.toList.foldl (fun n group => n + group.2.size) 0

/-- Whether there are no items. -/
def isEmpty (t : FormalItems) : Bool := t.groups.isEmpty

end FormalItems

end Manuscript
