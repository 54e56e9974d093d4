import Manuscript.Number.Item
import Manuscript.Draft
import Manuscript.Numbered.Element

/-!
# Places

The position of an element as a function of how many elements of its class
stand before it. Numbering counts on with `Position.next`, which stops at the
limit, so the position of a place is cut off there as well. Lists that are not
longer than the limit never get there, and `Position.val_ofIndex` gives the
plain count for them.

Blocks are counted by class, so the count before a block is taken among those
of its own class.

## Main definitions

* `Position.ofIndex`: The position after a number of earlier elements.
* `Block.itemClass`: Whether a block is a paragraph or a formal item.
* `Block.scope`, `Block.position`: The number of a block, whatever its class.
* `Block.rank`: How many blocks of a class stand before a place.

## Theorems

* `Position.next_ofIndex`: Counting on goes to the next place.
* `Position.val_ofIndex`: Below the limit the position is the count and one.
* `Position.of?_ofIndex`: A place is found at its position in a list that is shorter than the limit.
* `ItemClass.rank_lt_rank`: Ranks within a class grow from place to place.
-/

namespace Manuscript

namespace Position

/-- The position of an element with `i` elements before it. -/
def ofIndex (i : Nat) : Position :=
  ⟨min (i + 1) limit, by unfold limit; omega, Nat.min_le_right _ _⟩

theorem next_ofIndex (i : Nat) : (ofIndex i).next = ofIndex (i + 1) := by
  apply ext
  rw [val_next]
  simp only [ofIndex]
  omega

theorem val_ofIndex {i : Nat} (h : i < limit) : (ofIndex i).val = i + 1 :=
  Nat.min_eq_left h

/-- A list that is shorter than the limit has nothing at the last position, so a place that is cut
    off there is past its end as it should be. -/
theorem of?_ofIndex {α : Type} {items : List α} (h : items.length < limit) (i : Nat) :
    (ofIndex i).of? items = items[i]? := by
  show items[min (i + 1) limit - 1]? = items[i]?
  by_cases hi : i < limit
  · rw [Nat.min_eq_left hi]
    rfl
  · rw [List.getElem?_eq_none (by omega), List.getElem?_eq_none (by omega)]

theorem previous?_ofIndex_succ {i : Nat} (h : i + 1 < limit) :
    (ofIndex (i + 1)).previous? = some (ofIndex i) := by
  have hi : i < limit := Nat.lt_of_succ_lt h
  rw [← next_ofIndex, previous?_next]
  rw [val_ofIndex hi]
  exact h

end Position

def Block.itemClass : Block → ItemClass
  | .paragraph _ => .paragraph
  | .formalItem _ => .formalItem

def Draft.Block.itemClass : Draft.Block → ItemClass
  | .paragraph _ => .paragraph
  | .formalItem _ => .formalItem

/-- The scope that the number of a block names. -/
def Block.scope : Block → Scope
  | .paragraph p => p.number.scope
  | .formalItem f => f.number.scope

/-- The position that the number of a block ends in. -/
def Block.position : Block → Position
  | .paragraph p => p.number.position
  | .formalItem f => f.number.position

/-- How many of the elements before place `i` are of class `c`. -/
def ItemClass.rank (c : ItemClass) (classes : List ItemClass) (i : Nat) : Nat :=
  (classes.take i).count c

/-- How many blocks of class `c` stand before place `i`. -/
def Block.rank (c : ItemClass) (blocks : List Block) (i : Nat) : Nat :=
  c.rank (blocks.map Block.itemClass) i

def Draft.Block.rank (c : ItemClass) (blocks : List Draft.Block) (i : Nat) : Nat :=
  c.rank (blocks.map Draft.Block.itemClass) i

theorem ItemClass.rank_lt {c : ItemClass} {classes : List ItemClass} {i n : Nat}
    (hi : i < classes.length) (hn : classes.length ≤ n) : c.rank classes i < n := by
  have hcount : c.rank classes i ≤ (classes.take i).length := List.count_le_length
  rw [List.length_take] at hcount
  omega

/-- A place of class `c` is counted at all later places. -/
theorem ItemClass.rank_lt_rank {c : ItemClass} {classes : List ItemClass} {i j : Nat}
    (hi : classes[i]? = some c) (hij : i < j) : c.rank classes i < c.rank classes j := by
  have hnext : (classes.take (i + 1)).count c = c.rank classes i + 1 := by
    rw [List.take_add_one, hi, List.count_append, Option.toList_some, List.count_singleton_self]
    rfl
  have hle : (classes.take (i + 1)).count c ≤ c.rank classes j :=
    (List.take_sublist_take_left hij).count_le c
  omega

end Manuscript
