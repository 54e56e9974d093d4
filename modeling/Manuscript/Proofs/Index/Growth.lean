import Manuscript.Proofs.Index.FormalItems
import Manuscript.Proofs.Index.Identifiers

/-!
# Growing Collections

What filing elements does to collections that are in use already. Both
collections of the index are read by keys, identifiers in the one and kinds with
numbers in the other. `Gains` says that everything at the old keys stays as it
was, and it lists the keys that are new. The list can be read off the elements,
whatever the collection was before.

The two collections grow for different reasons. An identifier that is taken is
refused, so an identifier that was defined had been free. A formal item replaces
what stands at its place, so it has to be known that the places were free.

## Main definitions

* `Gains`: A collection keeps what it had and has something at new keys.
* `FormalItem.place`: The kind and the number of a formal item.

## Theorems

* `Identifiers.gains_defineIfAny`: Identifiers after some elements.
* `FormalItems.gains_fileAll`: Formal items after some elements, at free places.
-/

namespace Manuscript

/-- Whatever is found in `before` is found in `after` as well. Besides, something is found at the
    keys that are gained, which were free, and nowhere else. -/
structure Gains {κ α : Type} (before after : κ → Option α) (gained : List κ) : Prop where
  kept : ∀ key a, before key = some a → after key = some a
  free : ∀ key ∈ gained, before key = none
  found : ∀ key, (after key).isSome ↔ (before key).isSome ∨ key ∈ gained

namespace Gains

variable {κ α : Type} {f g h : κ → Option α}

theorem refl (f : κ → Option α) : Gains f f [] where
  kept _ _ hkey := hkey
  free _ hkey := absurd hkey List.not_mem_nil
  found key := by simp only [List.not_mem_nil, or_false]

theorem trans {k l : List κ} (hfg : Gains f g k) (hgh : Gains g h l) : Gains f h (k ++ l) where
  kept key a hkey := hgh.kept key a (hfg.kept key a hkey)
  free key hkey := by
    rcases List.mem_append.mp hkey with hk | hl
    · exact hfg.free key hk
    -- What was free later on had been free before.
    · cases hf : f key with
      | none => rfl
      | some a => exact (hfg.kept key a hf).symm.trans (hgh.free key hl)
  found key := by rw [hgh.found, hfg.found, List.mem_append, or_assoc]

end Gains

/-! ### Identifiers -/

namespace Identifiers

theorem gains_define {t after : Identifiers} {id : String} {e : Element}
    (h : t.define id e = .ok after) : Gains t.lookup after.lookup [id] := by
  unfold define at h
  cases hfree : t.lookup id with
  | some holder =>
      rw [hfree] at h
      cases h
  | none =>
      rw [hfree] at h
      cases h
      refine ⟨fun key a hkey => ?_, fun key hkey => ?_, fun key => ?_⟩
      · have hne : id ≠ key := by
          rintro rfl
          rw [hfree] at hkey
          cases hkey
        rw [lookup_insert, if_neg hne, hkey]
      · rw [List.mem_singleton.mp hkey, hfree]
      · rw [lookup_insert, List.mem_singleton]
        by_cases hid : id = key
        · rw [if_pos hid]
          exact iff_of_true rfl (.inr hid.symm)
        · rw [if_neg hid, or_iff_left fun heq => hid heq.symm]

theorem gains_defineAll {t after : Identifiers} {entries : List (String × Element)}
    (h : t.defineAll entries = .ok after) :
    Gains t.lookup after.lookup (entries.map Prod.fst) := by
  induction entries generalizing t with
  | nil =>
      cases h
      exact Gains.refl _
  | cons entry rest ih =>
      rw [defineAll_cons] at h
      cases hd : t.define entry.1 entry.2 with
      | error conflict =>
          rw [hd] at h
          cases h
      | ok next =>
          rw [hd] at h
          exact (gains_define hd).trans (ih h)

/-- Elements that could all be defined bring their identifiers, which had been free. -/
theorem gains_defineIfAny {t after : Identifiers} {elements : List Element}
    (h : elements.foldlM defineIfAny t = .ok after) :
    Gains t.lookup after.lookup (elements.filterMap Element.id?) := by
  have hids : (bindings elements).map Prod.fst = elements.filterMap Element.id? := by
    rw [bindings, List.map_filterMap]
    refine congrArg (List.filterMap · elements) (funext fun e => ?_)
    exact (Option.map_map Prod.fst _ e.id?).trans (congrFun Option.map_id e.id?)
  rw [foldlM_defineIfAny] at h
  rw [← hids]
  exact gains_defineAll h

end Identifiers

/-! ### Formal items -/

/-- The place of a formal item in the collection. -/
def FormalItem.place (f : FormalItem) : String × FormalItemNumber := (f.kind, f.number)

namespace FormalItems

/-- The item at a place. -/
def at? (t : FormalItems) (place : String × FormalItemNumber) : Option FormalItem :=
  t.find? place.1 place.2

theorem at?_insert (t : FormalItems) (f : FormalItem) (place : String × FormalItemNumber) :
    (t.insert f.kind f).at? place = if f.place = place then some f else t.at? place := by
  rw [at?, find?_insert, at?, FormalItem.place]
  exact ite_congr (Prod.mk.injEq f.kind f.number place.1 place.2).symm (fun _ => rfl) fun _ => rfl

/-- Filing formal items changes no place that is not theirs. -/
theorem at?_insertAll_of_not_mem {t : FormalItems} {items : List FormalItem}
    {place : String × FormalItemNumber} (h : place ∉ items.map FormalItem.place) :
    (t.insertAll (items.map fun f => (f.kind, f))).at? place = t.at? place := by
  induction items generalizing t with
  | nil => rfl
  | cons f rest ih =>
      rw [List.map_cons, List.mem_cons, not_or] at h
      exact (ih h.2).trans ((at?_insert t f place).trans (if_neg fun heq => h.1 heq.symm))

theorem isSome_at?_insertAll {t : FormalItems} {items : List FormalItem}
    {place : String × FormalItemNumber} :
    ((t.insertAll (items.map fun f => (f.kind, f))).at? place).isSome ↔
      (t.at? place).isSome ∨ place ∈ items.map FormalItem.place := by
  induction items generalizing t with
  | nil => simp [insertAll]
  | cons f rest ih =>
      have hstep : (t.insertAll ((f :: rest).map fun f => (f.kind, f))) =
        (t.insert f.kind f).insertAll (rest.map fun f => (f.kind, f)) := rfl
      rw [hstep, ih, at?_insert, List.map_cons, List.mem_cons]
      by_cases heq : f.place = place
      · rw [if_pos heq]
        exact iff_of_true (.inl rfl) (.inr (.inl heq.symm))
      · rw [if_neg heq, or_iff_right fun hplace : place = f.place => heq hplace.symm]

/-- Elements whose formal items have free places bring these places into use. -/
theorem gains_fileAll {t : FormalItems} {elements : List Element}
    (h : ∀ f ∈ formalItemsOf elements, t.at? f.place = none) :
    Gains t.at? (t.fileAll elements).at? ((formalItemsOf elements).map FormalItem.place) := by
  have hfree : ∀ place ∈ (formalItemsOf elements).map FormalItem.place, t.at? place = none := by
    intro place hplace
    rcases List.mem_map.mp hplace with ⟨f, hf, rfl⟩
    exact h f hf
  refine ⟨fun place f hf => ?_, hfree, fun place => isSome_at?_insertAll⟩
  have hnot : place ∉ (formalItemsOf elements).map FormalItem.place := by
    intro hmem
    rw [hfree place hmem] at hf
    cases hf
  exact (at?_insertAll_of_not_mem hnot).trans hf

end FormalItems

end Manuscript
