import Manuscript.Proofs.Index.Identifiers
import Mathlib.Data.Finset.Card

/-!
# First Come, First Served

The collection of identifiers through any sequence of definitions, where it goes
on after one of them is refused. An identifier stays with the element that was
first defined under it, and every later definition of it is refused.

The whole history is the list of definitions that were tried, and looking up an
identifier in that list finds the first of them. `FindsFirst` says that the
collection finds the same. One more definition keeps this, whether it is refused
or not: an identifier that is free is at the end of the list only, and for one
that is taken the end of the list makes no difference.

Everything that can be asked of the collection follows from what it finds. So it
is never looked at how the definitions before came out.

## Main definitions

* `Identifiers.attempt`: One definition, and the collection afterwards.
* `Identifiers.attemptAll`: A sequence of them.
* `Identifiers.FindsFirst`: A collection finds the first of all definitions of an identifier.

## Theorems

* `Identifiers.FindsFirst.attempt`: One more definition, and what comes of it.
* `Identifiers.FindsFirst.attemptAll`: A sequence of definitions.
* `Identifiers.FindsFirst.count_eq`: Different identifiers are counted.
* `Identifiers.attemptAll_firstCome`: What comes of any sequence of definitions.
-/

namespace Manuscript

/-- An identifier is not found in a list exactly if it is not there. -/
theorem lookup_eq_none_iff_notMem {α : Type} {entries : List (String × α)} {id : String} :
    entries.lookup id = none ↔ id ∉ entries.map Prod.fst := by
  rw [List.lookup_eq_none_iff, List.mem_map]
  constructor
  · rintro hne ⟨entry, hentry, rfl⟩
    exact bne_iff_ne.mp (hne entry hentry) rfl
  · intro h entry hentry
    exact bne_iff_ne.mpr fun heq => h ⟨entry, hentry, heq.symm⟩

namespace Identifiers

/-! ### Sequences of definitions -/

/-- Tries to let an identifier stand for an element. A refusal leaves everything as it was. -/
def attempt (t : Identifiers) (entry : String × Element) :
    Option DuplicateIdentifier × Identifiers :=
  match t.define entry.1 entry.2 with
  | .ok after => (none, after)
  | .error refusal => (some refusal, t)

/-- Tries one definition after the other, also after one was refused. -/
def attemptAll (t : Identifiers) :
    List (String × Element) → List (Option DuplicateIdentifier) × Identifiers
  | [] => ([], t)
  | entry :: rest =>
    let following := (t.attempt entry).2.attemptAll rest
    ((t.attempt entry).1 :: following.1, following.2)

/-- The collection after a sequence of definitions. -/
def afterAll (t : Identifiers) (entries : List (String × Element)) : Identifiers :=
  (t.attemptAll entries).2

theorem attemptAll_append (t : Identifiers) (l r : List (String × Element)) :
    t.attemptAll (l ++ r) =
      ((t.attemptAll l).1 ++ ((t.afterAll l).attemptAll r).1, (t.afterAll l).afterAll r) := by
  induction l generalizing t with
  | nil => rfl
  | cons entry rest ih =>
      rw [List.cons_append, attemptAll, ih]
      rfl

theorem length_attemptAll (t : Identifiers) (entries : List (String × Element)) :
    (t.attemptAll entries).1.length = entries.length := by
  induction entries generalizing t with
  | nil => rfl
  | cons entry rest ih => exact congrArg Nat.succ (ih (t.attempt entry).2)

/-- What comes of a definition is seen where it stands in the sequence. -/
theorem getElem?_attemptAll (t : Identifiers) (before rest : List (String × Element))
    (entry : String × Element) :
    (t.attemptAll (before ++ entry :: rest)).1[before.length]? =
      some ((t.afterAll before).attempt entry).1 := by
  rw [attemptAll_append, ← t.length_attemptAll before, List.getElem?_append_right (Nat.le_refl _),
    Nat.sub_self]
  rfl

theorem afterAll_snoc (t : Identifiers) (before : List (String × Element))
    (entry : String × Element) :
    t.afterAll (before ++ [entry]) = ((t.afterAll before).attempt entry).2 := by
  rw [afterAll, attemptAll_append]
  rfl

/-- A definition that is refused changes nothing. -/
theorem attempt_refused {t : Identifiers} {entry : String × Element}
    {refusal : DuplicateIdentifier} (h : (t.attempt entry).1 = some refusal) :
    (t.attempt entry).2 = t := by
  unfold attempt at h ⊢
  cases hdefine : t.define entry.1 entry.2 with
  | ok after =>
      rw [hdefine] at h
      cases h
  | error _ => rfl

/-! ### What is found -/

/-- The collection finds what is found first in a list. -/
def FindsFirst (t : Identifiers) (entries : List (String × Element)) : Prop :=
  ∀ id, t.lookup id = entries.lookup id

namespace FindsFirst

theorem empty : Identifiers.empty.FindsFirst [] := fun _ => Std.ExtTreeMap.getElem?_empty

variable {t : Identifiers} {entries : List (String × Element)}

/-- One more definition is refused if there is one in the list already, and then the refusal names
    the element of the first one. Afterwards the collection finds the first of the longer list. -/
theorem attempt (h : t.FindsFirst entries) (id : String) (e : Element) :
    (t.attempt (id, e)).1 =
        (entries.lookup id).map (fun holder => ⟨id, holder.describe, e.describe⟩) ∧
      (t.attempt (id, e)).2.FindsFirst (entries ++ [(id, e)]) := by
  unfold Identifiers.attempt define
  rw [h id]
  cases hfound : entries.lookup id with
  | some holder =>
      -- The new definition comes after the one that is found.
      refine ⟨rfl, fun other => ?_⟩
      rw [h other, List.lookup_append, List.lookup_cons]
      by_cases hother : other = id
      · rw [hother, hfound, Option.some_or]
      · rw [beq_eq_false_iff_ne.mpr hother, List.lookup_nil, Option.or_none]
  | none =>
      -- Nothing was found, so the new definition is the first one of its identifier.
      refine ⟨rfl, fun other => ?_⟩
      rw [lookup_insert, h other, List.lookup_append, List.lookup_cons]
      by_cases hother : id = other
      · rw [if_pos hother, ← hother, hfound, beq_self_eq_true, Option.none_or]
      · rw [if_neg hother, beq_eq_false_iff_ne.mpr (Ne.symm hother), List.lookup_nil,
          Option.or_none]

theorem attemptAll (h : t.FindsFirst entries) (more : List (String × Element)) :
    (t.afterAll more).FindsFirst (entries ++ more) := by
  induction more generalizing t entries with
  | nil =>
      rw [List.append_nil]
      exact h
  | cons entry rest ih =>
      rw [List.append_cons]
      exact ih (h.attempt entry.1 entry.2).2

/-- What is listed is what is found first. -/
theorem mem_entries_iff (h : t.FindsFirst entries) {id : String} {e : Element} :
    (id, e) ∈ t.entries ↔ entries.lookup id = some e := by
  rw [mem_entries, h id]

theorem mem_map_fst_entries (h : t.FindsFirst entries) {id : String} :
    id ∈ t.entries.map Prod.fst ↔ id ∈ entries.map Prod.fst := by
  rw [← not_iff_not, ← lookup_eq_none_iff_notMem, ← lookup_eq_none_iff_notMem, ← h id]
  constructor
  · intro hnone
    cases hfound : t.lookup id with
    | none => rfl
    | some e =>
        have hmem := List.mem_map_of_mem (f := Prod.fst) (mem_entries.mpr hfound)
        exact absurd hmem (lookup_eq_none_iff_notMem.mp hnone)
  · intro hnone
    rw [lookup_eq_none_iff_notMem, List.mem_map]
    rintro ⟨⟨_, e⟩, hmem, rfl⟩
    rw [mem_entries, hnone] at hmem
    cases hmem

/-- As many identifiers are listed as there are different ones in the list. -/
theorem count_eq (h : t.FindsFirst entries) :
    t.count = (entries.map Prod.fst).toFinset.card := by
  have hnodup : (t.entries.map Prod.fst).Nodup :=
    List.pairwise_map.mpr (t.pairwise_entries.imp fun hlt heq => by
      rw [heq] at hlt
      exact Std.lt_irrefl hlt)
  have hsame : (t.entries.map Prod.fst).toFinset = (entries.map Prod.fst).toFinset := by
    ext id
    rw [List.mem_toFinset, List.mem_toFinset, h.mem_map_fst_entries]
  rw [← hsame, List.toFinset_card_of_nodup hnodup, List.length_map]
  exact Std.ExtTreeMap.length_toList.symm

end FindsFirst

/-- What comes of any sequence of definitions. One of them is refused exactly if its identifier was
    used before, with the descriptions of the first element under it and of its own, and then
    nothing changes. In the end every identifier that was used stands for the first element that was
    defined under it. -/
theorem attemptAll_firstCome (entries : List (String × Element)) :
    (∀ before id e rest, entries = before ++ (id, e) :: rest →
      ∃ answer, (empty.attemptAll entries).1[before.length]? = some answer ∧
        (answer = none ↔ id ∉ before.map Prod.fst) ∧
        ∀ refusal, answer = some refusal →
          (∃ holder, before.lookup id = some holder ∧
            refusal = ⟨id, holder.describe, e.describe⟩) ∧
          (∀ other, (empty.afterAll (before ++ [(id, e)])).lookup other =
            (empty.afterAll before).lookup other) ∧
          (empty.afterAll (before ++ [(id, e)])).count = (empty.afterAll before).count ∧
          (empty.afterAll (before ++ [(id, e)])).entries = (empty.afterAll before).entries) ∧
      (∀ id, (empty.afterAll entries).lookup id = entries.lookup id) ∧
      (empty.afterAll entries).count = (entries.map Prod.fst).toFinset.card ∧
      ((empty.afterAll entries).entries.Pairwise fun a b => bytes a.1 < bytes b.1) ∧
      ∀ id e, (id, e) ∈ (empty.afterAll entries).entries ↔ entries.lookup id = some e := by
  have hall := FindsFirst.empty.attemptAll entries
  refine ⟨?_, hall, hall.count_eq, pairwise_entries _, fun _ _ => hall.mem_entries_iff⟩
  rintro before id e rest rfl
  have hbefore : (empty.afterAll before).FindsFirst before := FindsFirst.empty.attemptAll before
  have hanswer := (hbefore.attempt id e).1
  refine ⟨_, empty.getElem?_attemptAll before rest (id, e), ?_, fun refusal hrefusal => ?_⟩
  · rw [hanswer, Option.map_eq_none_iff, lookup_eq_none_iff_notMem]
  · rw [afterAll_snoc, attempt_refused hrefusal]
    rw [hanswer, Option.map_eq_some_iff] at hrefusal
    rcases hrefusal with ⟨holder, hholder, heq⟩
    exact ⟨⟨holder, hholder, heq.symm⟩, fun _ => rfl, rfl, rfl⟩

end Identifiers

end Manuscript
