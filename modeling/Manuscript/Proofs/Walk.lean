/-!
# Walks along Lists

Mapping a list while a state goes along with it. Numbering is such a walk: what
an element becomes depends on how much was numbered before it, and on nothing
that comes after it.

A walk is defined by what the state is next and what an element becomes in a
state. `walk_eq_mapIdx` takes it apart into its elements, each with the state
that the elements before it lead to. That is the form in which the place of an
element determines its number.

## Main definitions

* `walk`: The walk along a list from a state.

## Theorems

* `walk_eq_mapIdx`: An element is mapped in the state that those before it lead to.
* `length_walk`: No element is lost.
* `map_walk`: A function for which the state makes no difference ignores the walk.
* `flatMap_walk`: The same for a function that lists.
* `map_walk_of_related`: What a related state changes in each step, it changes in the walk.
-/

namespace Manuscript

variable {σ α β γ : Type}

/-- Maps a list from the front while a state goes along with it. -/
def walk (next : σ → α → σ) (f : σ → α → β) : σ → List α → List β
  | _, [] => []
  | s, x :: rest => f s x :: walk next f (next s x) rest

variable {next : σ → α → σ} {f : σ → α → β}

theorem walk_eq_mapIdx (s : σ) (xs : List α) :
    walk next f s xs = xs.mapIdx fun i x => f ((xs.take i).foldl next s) x := by
  induction xs generalizing s with
  | nil => rfl
  | cons x rest ih =>
      rw [walk, ih, List.mapIdx_cons]
      rfl

theorem length_walk (s : σ) (xs : List α) : (walk next f s xs).length = xs.length := by
  rw [walk_eq_mapIdx, List.length_mapIdx]

theorem getElem?_walk (s : σ) (xs : List α) (i : Nat) :
    (walk next f s xs)[i]? = xs[i]?.map (f ((xs.take i).foldl next s)) := by
  rw [walk_eq_mapIdx, List.getElem?_mapIdx]

theorem map_walk {g : β → γ} {h : α → γ} (hf : ∀ s x, g (f s x) = h x) (s : σ) (xs : List α) :
    (walk next f s xs).map g = xs.map h := by
  induction xs generalizing s with
  | nil => rfl
  | cons x rest ih => rw [walk, List.map_cons, List.map_cons, hf, ih]

theorem flatMap_walk {g : β → List γ} {h : α → List γ} (hf : ∀ s x, g (f s x) = h x)
    (s : σ) (xs : List α) : (walk next f s xs).flatMap g = xs.flatMap h := by
  rw [List.flatMap_def, map_walk hf, ← List.flatMap_def]

/-- If starting in a related state makes the difference `g` at each step, it does so for the whole
    walk. -/
theorem map_walk_of_related {g : β → β} {R : σ → σ → Prop}
    (hf : ∀ s t x, R s t → g (f s x) = f t x)
    (hnext : ∀ s t x, R s t → R (next s x) (next t x)) {s t : σ} (h : R s t) (xs : List α) :
    (walk next f s xs).map g = walk next f t xs := by
  induction xs generalizing s t with
  | nil => rfl
  | cons x rest ih => rw [walk, walk, List.map_cons, hf s t x h, ih (hnext s t x h)]

end Manuscript
