import Manuscript.Numbered.Navigation

/-!
# Linked Lists of Segments

What it means that two functions lead through a list, one forth and the other
back. The lists that come up are read one after the other, as the segments of
one part are after those of the part before. So a list is linked relative to
what comes before its first element and after its last one, and two lists that
border on each other are linked as one.

Going forth is a loop that ends where nothing follows. `Trail` is that loop
without a bound on its steps, and `Document.follow` is the same loop with one.
The two agree when the bound is large enough to reach the end.

## Main definitions

* `Linked`: Two functions lead forth and back through a list.
* `Trail`: Going forth until nothing follows passes through a list.

## Theorems

* `Linked.append`: Lists that border on each other are linked as one.
* `Linked.map`: A list is linked if its elements are, place by place.
* `Linked.next_eq`, `Linked.previous_eq`: What a linked list has next to a place.
* `Linked.nodup`: A linked list that nothing comes before does not repeat itself.
* `Linked.trail`: Going forth through a linked list ends at its end.
* `Document.follow_of_trail`: With enough steps the bound makes no difference.
-/

namespace Manuscript

variable {α : Type} {next previous : α → Option α}

/-- Forth and back lead through the list, coming from `before` and going on to `after`. -/
def Linked (next previous : α → Option α) (after : Option α) : Option α → List α → Prop
  | _, [] => True
  | before, n :: rest =>
    previous n = before ∧ next n = rest.head?.or after ∧ Linked next previous after (some n) rest

/-- Going forth from a start as long as something follows passes through the list. -/
inductive Trail (next : α → Option α) : Option α → List α → Prop where
  | stop : Trail next none []
  | go {n : α} {rest : List α} : Trail next (next n) rest → Trail next (some n) (n :: rest)

namespace Linked

theorem append {after before : Option α} {l r : List α}
    (hl : Linked next previous (r.head?.or after) before l)
    (hr : Linked next previous after (l.getLast?.or before) r) :
    Linked next previous after before (l ++ r) := by
  induction l generalizing before with
  | nil => exact hr
  | cons n rest ih =>
      rcases hl with ⟨hback, hforth, hrest⟩
      rw [List.cons_append]
      refine ⟨hback, ?_, ih hrest ?_⟩
      · rw [hforth, List.head?_append, Option.or_assoc]
      · -- The last element before `r` is that of `rest`, or else `n`.
        have hlast : (n :: rest).getLast?.or before = rest.getLast?.or (some n) := by
          rw [List.getLast?_cons]
          cases rest.getLast? <;> rfl
        rwa [← hlast]

theorem map {β : Type} {f : β → α} {after before : Option α} {l : List β}
    (hnext : ∀ {i x}, l[i]? = some x → next (f x) = (l[i + 1]?.map f).or after)
    (hhead : ∀ {x}, l[0]? = some x → previous (f x) = before)
    (hprevious : ∀ {i x}, l[i + 1]? = some x → previous (f x) = l[i]?.map f) :
    Linked next previous after before (l.map f) := by
  induction l generalizing before with
  | nil => trivial
  | cons y rest ih =>
      refine ⟨hhead rfl, ?_, ih ?_ ?_ ?_⟩
      · rw [hnext (i := 0) rfl, List.head?_map, List.head?_eq_getElem?]
        rfl
      · exact fun {i _} hx => hnext (i := i + 1) hx
      · exact fun hx => hprevious (i := 0) hx
      · exact fun {i _} hx => hprevious (i := i + 1) hx

theorem next_eq {after before : Option α} {l : List α} (h : Linked next previous after before l)
    {i : Nat} {n : α} (hn : l[i]? = some n) : next n = l[i + 1]?.or after := by
  induction l generalizing before i with
  | nil => cases hn
  | cons m rest ih =>
      rcases h with ⟨_, hforth, hrest⟩
      cases i with
      | zero =>
          cases hn
          rw [hforth, List.head?_eq_getElem?]
          rfl
      | succ i => exact ih hrest hn

theorem previous_head {after before : Option α} {l : List α}
    (h : Linked next previous after before l) {n : α} (hn : l[0]? = some n) :
    previous n = before := by
  cases l with
  | nil => cases hn
  | cons m rest =>
      cases hn
      exact h.1

theorem previous_eq {after before : Option α} {l : List α}
    (h : Linked next previous after before l) {i : Nat} {n : α} (hn : l[i + 1]? = some n) :
    previous n = l[i]? := by
  induction l generalizing before i with
  | nil => cases hn
  | cons m rest ih =>
      rcases h with ⟨_, _, hrest⟩
      cases i with
      | zero => exact hrest.previous_head hn
      | succ i => exact ih hrest hn

/-- What stands first stands nowhere else, because something comes before every later place. -/
theorem head_ne_later {after : Option α} {l : List α} (h : Linked next previous after none l)
    {j : Nat} {n : α} (hn : l[0]? = some n) : l[j + 1]? ≠ some n := by
  intro hlater
  have hj : j < l.length := Nat.lt_of_succ_lt (List.getElem?_eq_some_iff.mp hlater).1
  have hback := h.previous_eq hlater
  rw [h.previous_head hn, List.getElem?_eq_getElem hj] at hback
  cases hback

/-- From two places of one element the way back is the same, and it ends at the first place. -/
theorem index_unique {after : Option α} {l : List α} (h : Linked next previous after none l)
    {i j : Nat} {n : α} (hi : l[i]? = some n) (hj : l[j]? = some n) : i = j := by
  induction i generalizing j n with
  | zero =>
      cases j with
      | zero => rfl
      | succ j => exact absurd hj (h.head_ne_later hi)
  | succ i ih =>
      cases j with
      | zero => exact absurd hi (h.head_ne_later hj)
      | succ j =>
          have hback : l[i]? = l[j]? := (h.previous_eq hi).symm.trans (h.previous_eq hj)
          have hlt : i < l.length := Nat.lt_of_succ_lt (List.getElem?_eq_some_iff.mp hi).1
          have hm : l[i]? = some l[i] := List.getElem?_eq_getElem hlt
          exact congrArg Nat.succ (ih hm (hback.symm.trans hm))

theorem nodup {after : Option α} {l : List α} (h : Linked next previous after none l) :
    l.Nodup := by
  refine List.pairwise_iff_getElem.mpr fun i j hi hj hlt heq => ?_
  have hi' : l[i]? = some l[j] := by rw [List.getElem?_eq_getElem hi, heq]
  exact absurd (h.index_unique hi' (List.getElem?_eq_getElem hj)) (Nat.ne_of_lt hlt)

theorem trail {before : Option α} {l : List α} (h : Linked next previous none before l) :
    Trail next l.head? l := by
  induction l generalizing before with
  | nil => exact .stop
  | cons n rest ih =>
      rcases h with ⟨_, hforth, hrest⟩
      rw [Option.or_none] at hforth
      refine .go ?_
      rw [hforth]
      exact ih hrest

end Linked

theorem Document.follow_of_trail {doc : Document} {start : Option SegmentNumber}
    {l : List SegmentNumber} (h : Trail doc.next? start l) {steps : Nat} (hs : l.length ≤ steps) :
    doc.follow steps start = l := by
  induction h generalizing steps with
  | stop => cases steps <;> rfl
  | go _ ih =>
      cases steps with
      | zero => exact absurd hs (Nat.not_succ_le_zero _)
      | succ steps => rw [follow, ih (Nat.le_of_succ_le_succ hs)]

end Manuscript
