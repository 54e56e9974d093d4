import Manuscript.Index.Identifiers
import Manuscript.Proofs.Text.ByteOrder

/-!
# Identifiers One after the Other

What becomes of the identifiers of a list of elements that are defined in
order. The collection is compared with the list of what was defined so far:
`Identifiers.Holds` says that it finds exactly that, and that no identifier
was defined twice. Each definition either carries this one element further or
is refused, and then the list says by whom.

The first refusal ends the run. `FirstClash` finds it in the list alone: up to
there all identifiers differ, and the next one is among them. Later entries
of the list play no part in it.

## Main definitions

* `bindings`: The identifiers of some elements, each with its element.
* `FirstClash`: The first entry of a list whose identifier is taken.
* `Identifiers.Holds`: A collection finds exactly what a list says.

## Theorems

* `exists_firstClash`: A list that repeats an identifier has a first clash.
* `Identifiers.Holds.define`: A free identifier is defined.
* `Identifiers.Holds.define_taken`: A taken one is refused.
* `Identifiers.Holds.defineAll`: Different identifiers are all defined.
* `Identifiers.Holds.defineAll_clash`: The first clash is what is reported.
* `Identifiers.Holds.of_defineAll`: What was defined without a clash is found.
* `Identifiers.pairwise_entries`: Entries come in the order of their bytes.
* `Identifiers.Holds.perm_entries`: They are those of the list.
-/

namespace Manuscript

/-- An element with its identifier, if it carries one. -/
def Element.binding? (e : Element) : Option (String × Element) := e.id?.map fun id => (id, e)

/-- The identifiers that some elements carry, each with its element. -/
def bindings (elements : List Element) : List (String × Element) :=
  elements.filterMap Element.binding?

theorem mem_bindings {elements : List Element} {id : String} {e : Element} :
    (id, e) ∈ bindings elements ↔ e ∈ elements ∧ e.id? = some id := by
  unfold bindings Element.binding?
  rw [List.mem_filterMap]
  constructor
  · rintro ⟨a, ha, hb⟩
    rcases Option.map_eq_some_iff.mp hb with ⟨i, hi, heq⟩
    cases heq
    exact ⟨ha, hi⟩
  · rintro ⟨he, hid⟩
    exact ⟨e, he, by rw [hid]; rfl⟩

/-! ### The first clash in a list -/

section

variable {α : Type}

/-- Up to `claimant` all identifiers of the list differ, and one of them, with `holder`, is the
    identifier of `claimant` as well. -/
def FirstClash (entries : List (String × α)) (id : String) (holder claimant : α) : Prop :=
  ∃ before after, entries = before ++ (id, claimant) :: after ∧
    (before.map Prod.fst).Nodup ∧ (id, holder) ∈ before

theorem nodup_snoc {before : List (String × α)} {entry : String × α}
    (hb : (before.map Prod.fst).Nodup) (hentry : entry.1 ∉ before.map Prod.fst) :
    ((before ++ [entry]).map Prod.fst).Nodup := by
  rw [List.map_append, List.nodup_append]
  refine ⟨hb, List.pairwise_singleton _ _, ?_⟩
  intro a ha b hb heq
  rw [List.map_singleton, List.mem_singleton] at hb
  rw [heq, hb] at ha
  exact hentry ha

/-- A list in which an identifier repeats has a first clash. The search goes on from a beginning
    without one. -/
theorem exists_firstClash (before : List (String × α)) {rest : List (String × α)}
    (hb : (before.map Prod.fst).Nodup) (h : ¬((before ++ rest).map Prod.fst).Nodup) :
    ∃ id holder claimant, FirstClash (before ++ rest) id holder claimant := by
  induction rest generalizing before with
  | nil =>
      rw [List.append_nil] at h
      exact absurd hb h
  | cons entry rest ih =>
      -- Either this entry repeats an identifier, or the beginning without a repetition grows.
      by_cases hentry : entry.1 ∈ before.map Prod.fst
      · rcases List.mem_map.mp hentry with ⟨holder, hmem, hid⟩
        refine ⟨entry.1, holder.2, entry.2, before, rest, rfl, hb, ?_⟩
        rw [← hid]
        exact hmem
      · rw [List.append_cons] at h ⊢
        exact ih (before ++ [entry]) (nodup_snoc hb hentry) h

/-- A clash among descriptions comes from a clash among what they describe. -/
theorem FirstClash.of_map {β : Type} {f : α → β} {entries : List (String × α)} {id : String}
    {holder claimant : β}
    (h : FirstClash (entries.map fun entry => (entry.1, f entry.2)) id holder claimant) :
    ∃ a b, FirstClash entries id a b ∧ holder = f a ∧ claimant = f b := by
  rcases h with ⟨before, after, heq, hnodup, hmem⟩
  rcases List.map_eq_append_iff.mp heq with ⟨l, r, rfl, rfl, hr⟩
  rcases List.map_eq_cons_iff.mp hr with ⟨entry, rest, rfl, hentry, -⟩
  rcases List.mem_map.mp hmem with ⟨first, hfirst, heqf⟩
  rcases Prod.mk.inj hentry with ⟨rfl, rfl⟩
  rcases Prod.mk.inj heqf with ⟨hid, rfl⟩
  rw [List.map_map] at hnodup
  refine ⟨first.2, entry.2, ⟨l, rest, rfl, hnodup, ?_⟩, rfl, rfl⟩
  rw [← hid]
  exact hfirst

end

/-! ### Defining a list of identifiers -/

namespace Identifiers

theorem mem_entries {t : Identifiers} {id : String} {e : Element} :
    (id, e) ∈ t.entries ↔ t.lookup id = some e :=
  Std.ExtTreeMap.mem_toList_iff_getElem?_eq_some

theorem lookup_insert (t : Identifiers) (id other : String) (e : Element) :
    (Identifiers.mk (t.elements.insert id e)).lookup other =
      if id = other then some e else t.lookup other := by
  rw [lookup, Std.ExtTreeMap.getElem?_insert]
  by_cases h : id = other
  · rw [if_pos h, if_pos (Std.LawfulEqOrd.compare_eq_iff_eq.mpr h)]
  · rw [if_neg h, if_neg fun heq => h (Std.LawfulEqOrd.compare_eq_iff_eq.mp heq)]
    rfl

/-- Defines identifiers one after the other, until one of them is refused. -/
def defineAll (t : Identifiers) (entries : List (String × Element)) :
    Except DuplicateIdentifier Identifiers :=
  entries.foldlM (fun t entry => t.define entry.1 entry.2) t

theorem defineAll_cons (t : Identifiers) (entry : String × Element)
    (rest : List (String × Element)) :
    t.defineAll (entry :: rest) = t.define entry.1 entry.2 >>= fun t => t.defineAll rest :=
  List.foldlM_cons

theorem defineAll_append (t : Identifiers) (l r : List (String × Element)) :
    t.defineAll (l ++ r) = t.defineAll l >>= fun t => t.defineAll r :=
  List.foldlM_append

/-- Elements without an identifier make no difference. -/
theorem foldlM_defineIfAny (t : Identifiers) (elements : List Element) :
    elements.foldlM defineIfAny t = t.defineAll (bindings elements) := by
  induction elements generalizing t with
  | nil => rfl
  | cons e rest ih =>
      rw [List.foldlM_cons, bindings, List.filterMap_cons]
      unfold defineIfAny Element.binding?
      cases e.id? with
      | none => exact ih t
      | some id =>
          rw [Option.map_some]
          exact bind_congr ih

/-- The collection finds exactly what the list says, which names no identifier twice. -/
structure Holds (t : Identifiers) (entries : List (String × Element)) : Prop where
  nodup : (entries.map Prod.fst).Nodup
  lookup : ∀ id e, t.lookup id = some e ↔ (id, e) ∈ entries

namespace Holds

theorem empty : Identifiers.empty.Holds [] where
  nodup := List.nodup_nil
  lookup := by
    intro id e
    rw [Identifiers.lookup, Identifiers.empty, Std.ExtTreeMap.getElem?_empty]
    simp only [reduceCtorEq, List.not_mem_nil]

variable {t : Identifiers} {entries : List (String × Element)}

theorem lookup_eq_none (h : t.Holds entries) {id : String} (hid : id ∉ entries.map Prod.fst) :
    t.lookup id = none := by
  cases hl : t.lookup id with
  | none => rfl
  | some e => exact absurd (List.mem_map_of_mem ((h.lookup id e).mp hl)) hid

/-- An identifier that is free comes to stand for the element, and no other changes. -/
theorem define (h : t.Holds entries) {id : String} {e : Element}
    (hid : id ∉ entries.map Prod.fst) :
    ∃ after, t.define id e = .ok after ∧ after.Holds (entries ++ [(id, e)]) := by
  refine ⟨⟨t.elements.insert id e⟩, ?_, nodup_snoc h.nodup hid, ?_⟩
  · rw [Identifiers.define, h.lookup_eq_none hid]
  · intro i a
    rw [lookup_insert, List.mem_append, List.mem_singleton, Prod.mk.injEq]
    by_cases hi : id = i
    · subst hi
      -- The identifier was free, so the new entry is the only one for it.
      have hnot : (id, a) ∉ entries := fun hmem => hid (List.mem_map_of_mem hmem)
      simp [hnot, eq_comm]
    · have hne : i ≠ id := fun heq => hi heq.symm
      simp [hi, hne, h.lookup i a]

/-- An identifier that is taken is refused, with both elements described. -/
theorem define_taken (h : t.Holds entries) {id : String} {holder e : Element}
    (hmem : (id, holder) ∈ entries) :
    t.define id e = .error ⟨id, holder.describe, e.describe⟩ := by
  rw [Identifiers.define, (h.lookup id holder).mpr hmem]

/-- Identifiers that differ from each other and from those before are all defined. -/
theorem defineAll (h : t.Holds entries) (more : List (String × Element))
    (hmore : ((entries ++ more).map Prod.fst).Nodup) :
    ∃ after, t.defineAll more = .ok after ∧ after.Holds (entries ++ more) := by
  induction more generalizing t entries with
  | nil =>
      rw [List.append_nil]
      exact ⟨t, rfl, h⟩
  | cons entry rest ih =>
      have hfree : entry.1 ∉ entries.map Prod.fst := by
        intro hmem
        rw [List.map_append, List.nodup_append] at hmore
        exact hmore.2.2 entry.1 hmem entry.1 List.mem_cons_self rfl
      rcases h.define (e := entry.2) hfree with ⟨next, hnext, hholds⟩
      rw [List.append_cons] at hmore ⊢
      rcases ih hholds hmore with ⟨after, hafter, hall⟩
      refine ⟨after, ?_, hall⟩
      rw [defineAll_cons, hnext]
      exact hafter

/-- The first clash of a list is reported, whatever comes after it. -/
theorem defineAll_clash {more : List (String × Element)} {id : String} {holder claimant : Element}
    (hclash : FirstClash more id holder claimant) :
    Identifiers.empty.defineAll more = .error ⟨id, holder.describe, claimant.describe⟩ := by
  rcases hclash with ⟨before, after, rfl, hnodup, hmem⟩
  rcases Holds.empty.defineAll before hnodup with ⟨t, ht, hholds⟩
  -- The entries before the clash are all defined; the next one is refused and ends the run.
  have hrest : t.defineAll ((id, claimant) :: after) =
      .error ⟨id, holder.describe, claimant.describe⟩ := by
    rw [defineAll_cons, hholds.define_taken hmem]
    rfl
  rw [defineAll_append, ht]
  exact hrest

/-- If all of a list could be defined, then exactly the list is found. -/
theorem of_defineAll (h : Identifiers.empty.defineAll entries = .ok t) : t.Holds entries := by
  by_cases hnodup : (entries.map Prod.fst).Nodup
  · rcases Holds.empty.defineAll entries hnodup with ⟨after, hafter, hholds⟩
    rw [hafter] at h
    cases h
    exact hholds
  · exfalso
    rcases exists_firstClash [] List.nodup_nil hnodup with ⟨id, holder, claimant, hclash⟩
    rw [← List.nil_append entries, defineAll_clash hclash] at h
    cases h

/-- The entries are those of the list, in another order. -/
theorem perm_entries (h : t.Holds entries) : t.entries.Perm entries := by
  -- Neither list repeats an entry, since neither repeats an identifier.
  have hdistinct : t.entries.Nodup := by
    refine List.Pairwise.imp ?_ (Std.ExtTreeMap.distinct_keys_toList (t := t.elements))
    intro a b hkeys heq
    rw [heq, Std.ReflOrd.compare_self] at hkeys
    exact hkeys rfl
  have hentries : entries.Nodup :=
    List.Pairwise.of_map Prod.fst (fun _ _ hne heq => hne (congrArg Prod.fst heq)) h.nodup
  rw [List.perm_ext_iff_of_nodup hdistinct hentries]
  rintro ⟨id, e⟩
  rw [← h.lookup id e, mem_entries]

theorem count_eq (h : t.Holds entries) : t.count = entries.length := by
  rw [← h.perm_entries.length_eq]
  exact Std.ExtTreeMap.length_toList.symm

end Holds

/-- The entries come in the order of the bytes of their identifiers. -/
theorem pairwise_entries (t : Identifiers) :
    t.entries.Pairwise fun a b => bytes a.1 < bytes b.1 := by
  refine List.Pairwise.imp ?_ (Std.ExtTreeMap.ordered_keys_toList (t := t.elements))
  intro a b hlt
  exact bytes_lt_bytes (compareOfLessAndEq_eq_lt.mp hlt)

end Identifiers

end Manuscript
