import Manuscript.Yaml.Schema.Reading
import Mathlib.Data.List.Forall2

/-!
# Reading within the Limit of Nesting

Reading enters a collection only where the limit of nesting allows it. For a
node that is written by a schema, that is all that can go wrong: the value is
read if the collections in the node are not nested more deeply than the limit,
and otherwise the reading ends with that failure, whatever else the node holds.

`Schema.Reads` says this of a schema, a node and a value. It holds at every depth
up to a bound and not only at one, since a value may stand at any depth, and
since schemas of nested content are unfolded only so far.

`Reader.fitting` is the outcome in question, and it goes through all that
reading is made of: two readings one after the other fit if both do, and a
reading below a collection fits if there is one more level.

## Main definitions

* `Yaml.Node.nesting`: How deeply collections are nested in a node.
* `Yaml.Reader.fitting`: A value, if the limit allows for the nesting.
* `Yaml.Schema.Reads`: A node is read as a value as far as the limit allows.

## Theorems

* `Yaml.Reader.fitting_bind`: One reading after another.
* `Yaml.Reader.enter_bind`: A reading below a collection.
* `Yaml.Schema.reads_list`: A list is read if its items are.
* `Yaml.Schema.reads_optional`: A value that is there is read as an optional one.
-/

namespace Manuscript

namespace Yaml

mutual

/-- How many collections lie within each other. -/
def Node.nesting : Node → Nat
  | .scalar .. => 0
  | .sequence _ items => nestingOfItems items + 1
  | .mapping _ entries => nestingOfEntries entries + 1
  | .alias _ => 0

def nestingOfItems : List Node → Nat
  | [] => 0
  | n :: rest => max n.nesting (nestingOfItems rest)

def nestingOfEntries : List (Node × Node) → Nat
  | [] => 0
  | entry :: rest => max (nestingOfEntry entry) (nestingOfEntries rest)

def nestingOfEntry : Node × Node → Nat
  | (key, value) => max key.nesting value.nesting

end

variable {α β : Type}

namespace Reader

/-- A value, if collections may still be nested as deeply as it takes. -/
def fitting (nesting depth : Nat) (a : α) : Reader α :=
  if nesting ≤ depth then pure a else throw .tooDeep

theorem fitting_zero (depth : Nat) (a : α) : fitting 0 depth a = pure a :=
  if_pos (Nat.zero_le depth)

theorem under_fitting (step : Step) (m depth : Nat) (a : α) :
    (fitting m depth a).under step = fitting m depth a := by
  unfold fitting
  split
  · rfl
  · rfl

theorem fitting_bind {f : α → Reader β} {m n depth : Nat} {a : α} {b : β}
    (h : f a = fitting n depth b) : (fitting m depth a >>= f) = fitting (max m n) depth b := by
  unfold fitting at h ⊢
  by_cases hm : m ≤ depth
  · rw [if_pos hm, pure_bind, h]
    simp only [Nat.max_le, hm, true_and]
  · -- The first reading ends everything, so the second one does not matter.
    have hmax : ¬max m n ≤ depth := fun hle => hm (Nat.le_trans (Nat.le_max_left m n) hle)
    rw [if_neg hm, if_neg hmax]
    rfl

theorem fitting_bind_pure {f : α → Reader β} {a : α} {b : β} (h : f a = pure b)
    (m depth : Nat) : (fitting m depth a >>= f) = fitting m depth b := by
  have hbind := fitting_bind (m := m) (h.trans (fitting_zero depth b).symm)
  rw [hbind, Nat.max_zero]

theorem fitting_map (f : α → β) (m depth : Nat) (a : α) :
    (fitting m depth a >>= fun a => pure (f a)) = fitting m depth (f a) :=
  fitting_bind_pure (f := fun a => pure (f a)) rfl m depth

theorem enter_bind {f : Nat → Reader α} {m depth : Nat} {a : α}
    (h : ∀ d, d + 1 = depth → f d = fitting m d a) :
    (enter depth >>= f) = fitting (m + 1) depth a := by
  cases depth with
  | zero => rfl
  | succ d =>
      have hd := h d rfl
      unfold fitting at hd ⊢
      simp only [enter, pure_bind, hd, Nat.add_le_add_iff_right]

end Reader

open Reader

/-- Where collections may still be nested to a depth up to the bound, the node is read as the
    value if that depth is enough. -/
def Schema.Reads (s : Schema α) (bound : Nat) (n : Node) (a : α) : Prop :=
  ∀ refs depth, depth ≤ bound → s.read refs depth n = fitting n.nesting depth a

/-- A node that is no reference and stands for a value. -/
structure Node.IsThere (n : Node) : Prop where
  resolve : ∀ refs : References, refs.resolve n = pure n
  isPresent : isPresent n = .ok true

theorem Node.isThere_list (items : List Node) : (Node.list items).IsThere := ⟨fun _ => rfl, rfl⟩

namespace Schema

variable {bound : Nat}

theorem Reads.mono {s : Schema α} {n : Node} {a : α} (h : s.Reads bound n a) {lower : Nat}
    (hle : lower ≤ bound) : s.Reads lower n a :=
  fun refs depth hdepth => h refs depth (Nat.le_trans hdepth hle)

theorem reads_text (style : ScalarStyle) (s : String) :
    text.Reads bound (.scalar none style s) s := by
  intro refs depth _
  exact (fitting_zero depth s).symm

theorem reads_optional {s : Schema α} {n : Node} {a : α} (h : s.Reads bound n a)
    (hn : n.IsThere) : (optional s).Reads bound n (some a) := by
  intro refs depth hdepth
  rw [Schema.read, hn.resolve, pure_bind, hn.isPresent, h refs depth hdepth]
  exact fitting_map some _ _ _

theorem readItems_eq {read : Node → Reader α} {depth : Nat} {items : List Node}
    {values : List α}
    (h : List.Forall₂ (fun n a => read n = fitting n.nesting depth a) items values) (place : Nat) :
    readItems read place items = fitting (nestingOfItems items) depth values := by
  induction h generalizing place with
  | nil => exact (fitting_zero depth []).symm
  | cons hn _ ih =>
      rw [readItems, hn, under_fitting]
      refine fitting_bind ?_
      rw [ih (place + 1)]
      exact fitting_map _ _ _ _

theorem reads_list {item : Schema α} {items : List Node} {values : List α}
    (h : List.Forall₂ (item.Reads bound) items values) :
    (list item).Reads bound (.list items) values := by
  intro refs depth hdepth
  rw [Schema.read]
  refine (pure_bind _ _).trans (enter_bind fun d hd => ?_)
  exact readItems_eq (h.imp fun n a hna => hna refs d (by omega)) 0

/-- A list whose items are written one by one. -/
theorem reads_map {item : Schema α} {node : α → Node} (h : ∀ a, item.Reads bound (node a) a)
    (values : List α) : (list item).Reads bound (.list (values.map node)) values :=
  reads_list (List.forall₂_map_left_iff.mpr (List.forall₂_same.mpr fun a _ => h a))

end Schema

end Yaml

end Manuscript
