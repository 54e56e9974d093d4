import Manuscript.Index.FormalItems

/-!
# Formal Items One after the Other

What becomes of formal items that are filed one after the other. The
collection keeps a group for each kind and, within a group, a place for each
number, so `FormalItems.find?` looks at both at once. `FormalItems.Holds` says
that it finds exactly what a list of filings says.

A filing replaces what stands at its place. Nothing is lost as long as no two
items of one kind have the same number, which is what `Distinct` asks for. The
order of the filings does not matter then, and the items of a kind come out in
the order of their numbers.

## Main definitions

* `FormalItems.find?`: The item of a kind at a number.
* `FormalItems.insertAll`: The collection after a list of filings.
* `FormalItems.Holds`: A collection finds exactly what a list says.
* `FormalItems.fileAll`: The collection after a list of elements.

## Theorems

* `FormalItems.find?_insert`: A filing changes one place.
* `FormalItems.distinct_of_pairwise`: Filings in the order of their numbers are distinct.
* `FormalItems.Holds.insertAll`: Distinct filings are all kept.
* `FormalItems.Holds.mem_byKind`: The items of a kind are those filed under it.
* `FormalItems.Holds.pairwise_byKind`: They come in the order of their numbers.
-/

namespace Manuscript

/-- The element as a formal item, if it is one. -/
def Element.formalItem? : Element → Option FormalItem
  | formalItem f => some f
  | _ => none

/-- The formal items among some elements. -/
def formalItemsOf (elements : List Element) : List FormalItem :=
  elements.filterMap Element.formalItem?

theorem mem_formalItemsOf {elements : List Element} {f : FormalItem} :
    f ∈ formalItemsOf elements ↔ .formalItem f ∈ elements := by
  rw [formalItemsOf, List.mem_filterMap]
  constructor
  · rintro ⟨e, he, hf⟩
    cases e with
    | formalItem g => rwa [← Option.some.inj hf]
    | part p => cases hf
    | sect s => cases hf
    | subsect s => cases hf
    | paragraph p => cases hf
  · intro h
    exact ⟨_, h, rfl⟩

namespace FormalItems

/-- The item filed under `kind` at a number. -/
def find? (t : FormalItems) (kind : String) (number : FormalItemNumber) : Option FormalItem :=
  t.groups[kind]?.bind fun group => group[number]?

/-- Files items, each under the kind it comes with. -/
def insertAll (t : FormalItems) (filings : List (String × FormalItem)) : FormalItems :=
  filings.foldl (fun t filing => t.insert filing.1 filing.2) t

/-- Files the formal items among some elements, each under its own kind. -/
def fileAll (t : FormalItems) (elements : List Element) : FormalItems :=
  t.insertAll ((formalItemsOf elements).map fun f => (f.kind, f))

theorem fileAll_append (t : FormalItems) (d e : List Element) :
    t.fileAll (d ++ e) = (t.fileAll d).fileAll e := by
  rw [fileAll, formalItemsOf, List.filterMap_append, List.map_append]
  exact List.foldl_append

/-- A filing changes what is found at its own place and nowhere else. -/
theorem find?_insert (t : FormalItems) (kind k : String) (item : FormalItem)
    (n : FormalItemNumber) :
    (t.insert kind item).find? k n =
      if kind = k ∧ item.number = n then some item else t.find? k n := by
  unfold find? insert
  rw [Std.ExtTreeMap.getElem?_insert]
  by_cases hk : kind = k
  · subst hk
    rw [if_pos Std.ReflOrd.compare_self, Option.bind_some, Std.ExtTreeMap.getElem?_insert,
      Std.ExtTreeMap.getD_eq_getD_getElem?]
    by_cases hn : item.number = n
    · simp [hn]
    · rw [if_neg (by simpa using hn), if_neg (fun h => hn h.2)]
      -- A kind that is not in use yet has an empty group.
      cases t.groups[kind]? with
      | none => simp
      | some group => rfl
  · rw [if_neg (by simpa using hk), if_neg (fun h => hk h.1)]

/-- No two items that are filed under one kind have the same number. -/
def Distinct (filings : List (String × FormalItem)) : Prop :=
  filings.Pairwise fun a b => a.1 = b.1 → a.2.number ≠ b.2.number

/-- Filings in the order of their numbers have different numbers, whatever the kinds. -/
theorem distinct_of_pairwise {filings : List (String × FormalItem)}
    (h : filings.Pairwise fun a b => compare a.2.number b.2.number = .lt) : Distinct filings := by
  refine h.imp ?_
  intro a b hlt _ heq
  rw [heq, Std.ReflOrd.compare_self] at hlt
  cases hlt

/-- The collection finds exactly the filings of the list, each at the number of its item. -/
def Holds (t : FormalItems) (filings : List (String × FormalItem)) : Prop :=
  ∀ kind number item,
    t.find? kind number = some item ↔ (kind, item) ∈ filings ∧ item.number = number

namespace Holds

theorem empty : FormalItems.empty.Holds [] := by
  intro kind number item
  rw [find?, FormalItems.empty, Std.ExtTreeMap.getElem?_empty, Option.bind_none]
  simp only [reduceCtorEq, List.not_mem_nil, false_and]

variable {t : FormalItems} {filings : List (String × FormalItem)}

theorem insert (h : t.Holds filings) {kind : String} {item : FormalItem}
    (hfree : ∀ filing ∈ filings, filing.1 = kind → filing.2.number ≠ item.number) :
    (t.insert kind item).Holds (filings ++ [(kind, item)]) := by
  intro k n f
  rw [find?_insert, List.mem_append, List.mem_singleton, Prod.mk.injEq]
  by_cases hplace : kind = k ∧ item.number = n
  -- At its own place the item is found, and nothing was filed there before.
  · rcases hplace with ⟨rfl, rfl⟩
    rw [if_pos ⟨rfl, rfl⟩]
    constructor
    · intro hf
      cases hf
      exact ⟨Or.inr ⟨rfl, rfl⟩, rfl⟩
    · rintro ⟨hmem | ⟨-, rfl⟩, hnumber⟩
      · exact absurd hnumber (hfree _ hmem rfl)
      · rfl
  · rw [if_neg hplace, h k n f]
    constructor
    · rintro ⟨hmem, hnumber⟩
      exact ⟨Or.inl hmem, hnumber⟩
    · rintro ⟨hmem | ⟨rfl, rfl⟩, hnumber⟩
      · exact ⟨hmem, hnumber⟩
      · exact absurd ⟨rfl, hnumber⟩ hplace

/-- Filings that are distinct, also from those before, are all kept. -/
theorem insertAll (h : t.Holds filings) (more : List (String × FormalItem))
    (hmore : Distinct (filings ++ more)) : (t.insertAll more).Holds (filings ++ more) := by
  induction more generalizing t filings with
  | nil =>
      rw [List.append_nil]
      exact h
  | cons filing rest ih =>
      have hfree : ∀ a ∈ filings, a.1 = filing.1 → a.2.number ≠ filing.2.number := by
        intro a ha
        exact (List.pairwise_append.mp hmore).2.2 a ha filing List.mem_cons_self
      rw [List.append_cons] at hmore ⊢
      exact ih (h.insert hfree) hmore

/-- Every item stands at the place of its number. -/
theorem number_eq (h : t.Holds filings) {kind : String}
    {group : Std.ExtTreeMap FormalItemNumber FormalItem} (hgroup : t.groups[kind]? = some group)
    {n : FormalItemNumber} {f : FormalItem} (hf : group[n]? = some f) : f.number = n := by
  have hfind := h kind n f
  rw [find?, hgroup, Option.bind_some] at hfind
  exact (hfind.mp hf).2

theorem mem_byKind (h : t.Holds filings) {kind : String} {item : FormalItem} :
    item ∈ t.byKind kind ↔ (kind, item) ∈ filings := by
  have hfind := h kind item.number item
  unfold find? at hfind
  unfold byKind
  cases hg : t.groups[kind]? with
  | none => simpa [hg] using hfind
  | some group =>
      rw [hg, Option.bind_some] at hfind
      simp only [List.mem_map, Prod.exists]
      constructor
      · rintro ⟨n, f, hmem, rfl⟩
        have hf := Std.ExtTreeMap.mem_toList_iff_getElem?_eq_some.mp hmem
        rw [← h.number_eq hg hf] at hf
        exact (hfind.mp hf).1
      · intro hmem
        exact ⟨item.number, item,
          Std.ExtTreeMap.mem_toList_iff_getElem?_eq_some.mpr (hfind.mpr ⟨hmem, rfl⟩), rfl⟩

/-- The items of a kind come in the order of their numbers. -/
theorem pairwise_byKind (h : t.Holds filings) (kind : String) :
    (t.byKind kind).Pairwise fun f g => compare f.number g.number = .lt := by
  unfold byKind
  cases hg : t.groups[kind]? with
  | none => exact List.Pairwise.nil
  | some group =>
      have hplace : ∀ entry ∈ group.toList, entry.2.number = entry.1 := fun _ hentry =>
        h.number_eq hg (Std.ExtTreeMap.mem_toList_iff_getElem?_eq_some.mp hentry)
      rw [List.pairwise_map]
      refine List.Pairwise.imp_of_mem ?_ Std.ExtTreeMap.ordered_keys_toList
      intro a b ha hb hlt
      rw [hplace a ha, hplace b hb]
      exact hlt

end Holds

/-- Among items in the order of their numbers, an item is the only one with its number. -/
theorem filter_number {items : List FormalItem}
    (h : items.Pairwise fun f g => compare f.number g.number = .lt) {f : FormalItem}
    (hf : f ∈ items) : items.filter (fun g => g.number = f.number) = [f] := by
  have hne : ∀ {a b : FormalItem}, compare a.number b.number = .lt → a.number ≠ b.number := by
    intro a b hlt heq
    rw [heq, Std.ReflOrd.compare_self] at hlt
    cases hlt
  induction items with
  | nil => exact absurd hf List.not_mem_nil
  | cons g rest ih =>
      rw [List.pairwise_cons] at h
      rcases List.mem_cons.mp hf with rfl | hrest
      · have hothers : rest.filter (fun g => g.number = f.number) = [] := by
          rw [List.filter_eq_nil_iff]
          intro a ha
          simpa using (hne (h.1 a ha)).symm
        rw [List.filter_cons_of_pos (by simp), hothers]
      · rw [List.filter_cons_of_neg (by simpa using hne (h.1 f hrest))]
        exact ih h.2 hrest

end FormalItems

end Manuscript
