import Manuscript.Proofs.Index.FormalItems
import Manuscript.Proofs.Text.ByteOrder
import Mathlib.Data.List.Sort

/-!
# Formal Items Kind by Kind

The collection of formal items read as lists: the kinds in use, the items of
each kind, and how many items there are in all.

`FormalItems.Holds` compares places only, and a kind without items has none, so
it does not say which kinds are in use. That follows from the filings as well:
a filing brings its kind into use and no other one.

The number of items is counted group by group. `FormalItems.filed` lists the
items in that order, each with its kind, and it holds what was filed, in another
order.

Items are told apart by their numbers. A list in the order of its numbers is
therefore known from its items alone, and that is how the items of a kind are
found in any list that is in this order already.

## Main definitions

* `FormalItems.itemsOf`: The items that are filed under a kind.
* `FormalItems.filed`: All items with their kinds, kind by kind.

## Theorems

* `FormalItems.mem_kinds_insertAll`: A kind is in use if something was filed under it.
* `FormalItems.pairwise_kinds`: Kinds come in the order of their bytes.
* `FormalItems.eq_of_pairwise_number`: Lists in the order of numbers are known from their items.
* `FormalItems.Holds.byKind_eq_itemsOf`: Items of a kind come in the order of a list of filings.
* `FormalItems.Holds.perm_filed`: What is listed kind by kind is what was filed.
* `FormalItems.Holds.size_eq`: Distinct filings are all counted.
-/

namespace Manuscript

namespace FormalItems

/-! ### The kinds in use -/

theorem mem_kinds {t : FormalItems} {kind : String} : kind ∈ t.kinds ↔ kind ∈ t.groups := by
  rw [kinds, Std.ExtTreeMap.map_fst_toList_eq_keys, Std.ExtTreeMap.mem_keys]

theorem not_mem_kinds_empty (kind : String) : kind ∉ empty.kinds := by
  rw [mem_kinds]
  exact Std.ExtTreeMap.not_mem_empty

/-- A filing brings its kind into use and no other one. -/
theorem mem_kinds_insert {t : FormalItems} {kind k : String} {item : FormalItem} :
    k ∈ (t.insert kind item).kinds ↔ kind = k ∨ k ∈ t.kinds := by
  rw [mem_kinds, mem_kinds, insert, Std.ExtTreeMap.mem_insert, Std.LawfulEqOrd.compare_eq_iff_eq]

theorem mem_kinds_insertAll {t : FormalItems} {filings : List (String × FormalItem)} {k : String} :
    k ∈ (t.insertAll filings).kinds ↔ k ∈ filings.map Prod.fst ∨ k ∈ t.kinds := by
  induction filings generalizing t with
  | nil => simp [insertAll]
  | cons filing rest ih =>
      have hstep : t.insertAll (filing :: rest) = (t.insert filing.1 filing.2).insertAll rest := rfl
      rw [hstep, ih, mem_kinds_insert, List.map_cons, List.mem_cons, or_left_comm, or_assoc,
        eq_comm]

/-- The kinds come in the order of their bytes. -/
theorem pairwise_kinds (t : FormalItems) : t.kinds.Pairwise fun a b => bytes a < bytes b := by
  rw [kinds, List.pairwise_map]
  refine List.Pairwise.imp ?_ (Std.ExtTreeMap.ordered_keys_toList (t := t.groups))
  intro a b hlt
  exact bytes_lt_bytes (compareOfLessAndEq_eq_lt.mp hlt)

theorem mem_kinds_of_mem_byKind {t : FormalItems} {kind : String} {item : FormalItem}
    (h : item ∈ t.byKind kind) : kind ∈ t.kinds := by
  rw [mem_kinds, Std.ExtTreeMap.mem_iff_isSome_getElem?]
  unfold byKind at h
  cases hg : t.groups[kind]? with
  | none =>
      rw [hg] at h
      exact absurd h List.not_mem_nil
  | some group => rfl

/-! ### Lists in the order of numbers -/

theorem nodup_of_pairwise_number {items : List FormalItem}
    (h : items.Pairwise fun f g => compare f.number g.number = .lt) : items.Nodup := by
  refine h.imp ?_
  intro f g hlt heq
  rw [heq, Std.ReflOrd.compare_self] at hlt
  cases hlt

/-- Two lists in the order of their numbers are the same if they have the same items. -/
theorem eq_of_pairwise_number {l r : List FormalItem}
    (hl : l.Pairwise fun f g => compare f.number g.number = .lt)
    (hr : r.Pairwise fun f g => compare f.number g.number = .lt) (h : ∀ f, f ∈ l ↔ f ∈ r) :
    l = r := by
  have hasymm : Std.Asymm fun f g : FormalItem => compare f.number g.number = .lt :=
    ⟨fun _ _ => Std.OrientedCmp.not_lt_of_lt⟩
  exact hl.eq_of_mem_iff hr h

/-! ### The items of a kind -/

/-- The items that are filed under a kind, in the order of the filings. -/
def itemsOf (filings : List (String × FormalItem)) (kind : String) : List FormalItem :=
  (filings.filter fun filing => filing.1 = kind).map Prod.snd

theorem mem_itemsOf {filings : List (String × FormalItem)} {kind : String} {item : FormalItem} :
    item ∈ itemsOf filings kind ↔ (kind, item) ∈ filings := by
  rw [itemsOf, List.mem_map]
  constructor
  · rintro ⟨filing, hfiling, rfl⟩
    rcases List.mem_filter.mp hfiling with ⟨hmem, hkind⟩
    rw [← of_decide_eq_true hkind]
    exact hmem
  · intro hmem
    exact ⟨(kind, item), List.mem_filter.mpr ⟨hmem, decide_eq_true rfl⟩, rfl⟩

namespace Holds

variable {t : FormalItems} {filings : List (String × FormalItem)}

/-- Where filings are in the order of their numbers, so are those under one kind. -/
theorem byKind_eq_itemsOf (h : t.Holds filings)
    (hsorted : filings.Pairwise fun a b => compare a.2.number b.2.number = .lt) (kind : String) :
    t.byKind kind = itemsOf filings kind := by
  refine eq_of_pairwise_number (h.pairwise_byKind kind)
    (List.pairwise_map.mpr (hsorted.filter _)) fun f => ?_
  rw [h.mem_byKind, mem_itemsOf]

end Holds

/-! ### All items -/

/-- All items in the order of their kinds, each with the kind it is filed under. -/
def filed (t : FormalItems) : List (String × FormalItem) :=
  t.kinds.flatMap fun kind => (t.byKind kind).map (Prod.mk kind)

theorem mem_filed {t : FormalItems} {filing : String × FormalItem} :
    filing ∈ t.filed ↔ filing.2 ∈ t.byKind filing.1 := by
  simp only [filed, List.mem_flatMap, List.mem_map]
  constructor
  · rintro ⟨kind, _, item, hitem, rfl⟩
    exact hitem
  · intro hitem
    exact ⟨filing.1, mem_kinds_of_mem_byKind hitem, filing.2, hitem, rfl⟩

/-- Counting group by group is counting what is listed kind by kind. -/
theorem size_eq_length_filed (t : FormalItems) : t.size = t.filed.length := by
  -- The count goes along the groups, so the induction is on some of them and any count so far.
  have hcount : ∀ (groups : List (String × Std.ExtTreeMap FormalItemNumber FormalItem)) (n : Nat),
      (∀ group ∈ groups, t.byKind group.1 = group.2.toList.map (·.2)) →
      groups.foldl (fun n group => n + group.2.size) n =
        n + ((groups.map (·.1)).flatMap fun kind => (t.byKind kind).map (Prod.mk kind)).length := by
    intro groups
    induction groups with
    | nil => exact fun _ _ => rfl
    | cons group rest ih =>
        intro n hgroups
        rw [List.foldl_cons, ih _ fun g hg => hgroups g (List.mem_cons_of_mem _ hg), List.map_cons,
          List.flatMap_cons, List.length_append, List.length_map, hgroups group List.mem_cons_self,
          List.length_map, Std.ExtTreeMap.length_toList, Nat.add_assoc]
  have hgroups : ∀ group ∈ t.groups.toList, t.byKind group.1 = group.2.toList.map (·.2) := by
    intro group hgroup
    unfold byKind
    rw [Std.ExtTreeMap.mem_toList_iff_getElem?_eq_some.mp hgroup]
  rw [size, hcount _ 0 hgroups, Nat.zero_add]
  rfl

namespace Holds

variable {t : FormalItems} {filings : List (String × FormalItem)}

/-- What is listed kind by kind is what was filed, in another order. -/
theorem perm_filed (h : t.Holds filings) (hdistinct : Distinct filings) :
    t.filed.Perm filings := by
  have hfilings : filings.Nodup := by
    refine hdistinct.imp ?_
    intro a b hne heq
    exact hne (congrArg Prod.fst heq) (congrArg (fun filing => filing.2.number) heq)
  have hfiled : t.filed.Nodup := by
    refine List.pairwise_flatMap.mpr ⟨?_, ?_⟩
    -- Within a kind the numbers differ.
    · intro kind _
      rw [List.pairwise_map]
      refine (nodup_of_pairwise_number (h.pairwise_byKind kind)).imp ?_
      intro f g hne heq
      exact hne (Prod.mk.inj heq).2
    · refine t.pairwise_kinds.imp ?_
      intro k l hlt a ha b hb heq
      rcases List.mem_map.mp ha with ⟨f, -, rfl⟩
      rcases List.mem_map.mp hb with ⟨g, -, rfl⟩
      rw [(Prod.mk.inj heq).1] at hlt
      exact Std.lt_irrefl hlt
  rw [List.perm_ext_iff_of_nodup hfiled hfilings]
  intro filing
  rw [mem_filed, h.mem_byKind]

theorem size_eq (h : t.Holds filings) (hdistinct : Distinct filings) :
    t.size = filings.length := by
  rw [size_eq_length_filed, (h.perm_filed hdistinct).length_eq]

end Holds

end FormalItems

end Manuscript
