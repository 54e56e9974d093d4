import Manuscript.Proofs.Index.Kinds

/-!
# Filing in Any Order

The order in which formal items are filed makes no difference, as long as no two
items of one kind have the same number. The kinds and the items of each kind are
listed in orders of their own, and these do not go back to the filings.

So nothing is compared step by step. `FormalItems.Holds` says of each order what
the collection finds, and filings in another order are the same filings. What is
listed has the same members then, and it is sorted, which leaves only one list.
For numbers of different shapes this takes that their comparison is a total
order.

## Main definitions

* `FormalItems.album`: Filings with numbers of all shapes.

## Theorems

* `FormalItems.Distinct.perm`: Distinct filings are distinct in any order.
* `FormalItems.kinds_eq_of_mem_iff`: Collections with the same kinds list them alike.
* `FormalItems.Holds.perm_byKind`: The items of a kind are those that are filed under it.
* `FormalItems.insertAll_anyOrder`: What is listed after filing in any order.
-/

namespace Manuscript

namespace FormalItems

namespace Distinct

variable {filings order : List (String × FormalItem)}

theorem perm (h : Distinct filings) (hperm : order.Perm filings) : Distinct order := by
  refine (hperm.pairwise_iff ?_).mpr h
  intro a b hne hkind hnumber
  exact hne hkind.symm hnumber.symm

/-- Under one kind no item is filed twice. -/
theorem nodup_itemsOf (h : Distinct filings) (kind : String) : (itemsOf filings kind).Nodup := by
  refine List.pairwise_map.mpr ((h.filter _).imp_of_mem ?_)
  intro a b ha hb hne heq
  have hkind : a.1 = b.1 :=
    (of_decide_eq_true (List.mem_filter.mp ha).2).trans
      (of_decide_eq_true (List.mem_filter.mp hb).2).symm
  exact hne hkind (congrArg FormalItem.number heq)

end Distinct

/-- Kinds come in the order of their bytes, so they are known from which there are. -/
theorem kinds_eq_of_mem_iff {t u : FormalItems} (h : ∀ kind, kind ∈ t.kinds ↔ kind ∈ u.kinds) :
    t.kinds = u.kinds := by
  have hasymm : Std.Asymm fun a b : String => bytes a < bytes b := ⟨fun _ _ => List.lt_asymm⟩
  exact t.pairwise_kinds.eq_of_mem_iff u.pairwise_kinds h

theorem Holds.perm_byKind {t : FormalItems} {filings : List (String × FormalItem)}
    (h : t.Holds filings) (hdistinct : Distinct filings) (kind : String) :
    (t.byKind kind).Perm (itemsOf filings kind) := by
  rw [List.perm_ext_iff_of_nodup (nodup_of_pairwise_number (h.pairwise_byKind kind))
    (hdistinct.nodup_itemsOf kind)]
  intro item
  rw [h.mem_byKind, mem_itemsOf]

/-- After distinct filings in any order, the items of a kind are those that were filed under it, in
    the order of their numbers, the kinds are those that were used, in the order of their bytes, and
    all filings are counted. Any other order of the filings leads to the same lists. -/
theorem insertAll_anyOrder {filings order : List (String × FormalItem)}
    (hdistinct : Distinct filings) (horder : order.Perm filings) :
    (∀ kind, ((empty.insertAll order).byKind kind).Perm (itemsOf filings kind) ∧
        ((empty.insertAll order).byKind kind).Pairwise fun f g =>
          compare f.number g.number = .lt) ∧
      ((empty.insertAll order).kinds.Pairwise fun a b => bytes a < bytes b) ∧
      (∀ kind, kind ∈ (empty.insertAll order).kinds ↔ kind ∈ filings.map Prod.fst) ∧
      (empty.insertAll order).size = filings.length ∧
      ∀ other, other.Perm filings →
        (∀ kind, (empty.insertAll other).byKind kind = (empty.insertAll order).byKind kind) ∧
          (empty.insertAll other).kinds = (empty.insertAll order).kinds ∧
          (empty.insertAll other).size = (empty.insertAll order).size := by
  -- Each order is taken for itself, and two of them are compared only by what they list.
  have hholds : ∀ l, l.Perm filings → (empty.insertAll l).Holds l := fun l hl =>
    Holds.empty.insertAll l (hdistinct.perm hl)
  have hkinds : ∀ l, l.Perm filings → ∀ kind,
      kind ∈ (empty.insertAll l).kinds ↔ kind ∈ filings.map Prod.fst := by
    intro l hl kind
    rw [mem_kinds_insertAll, or_iff_left (not_mem_kinds_empty kind), (hl.map Prod.fst).mem_iff]
  have hsize : ∀ l, l.Perm filings → (empty.insertAll l).size = filings.length := by
    intro l hl
    rw [(hholds l hl).size_eq (hdistinct.perm hl), hl.length_eq]
  have hitems := hholds order horder
  refine ⟨fun kind => ⟨?_, hitems.pairwise_byKind kind⟩, pairwise_kinds _, hkinds order horder,
    hsize order horder, fun other hother => ⟨fun kind => ?_, ?_, ?_⟩⟩
  · exact (hitems.perm_byKind (hdistinct.perm horder) kind).trans
      ((horder.filter _).map Prod.snd)
  · refine eq_of_pairwise_number ((hholds other hother).pairwise_byKind kind)
      (hitems.pairwise_byKind kind) fun f => ?_
    rw [(hholds other hother).mem_byKind, hitems.mem_byKind, hother.mem_iff, horder.mem_iff]
  · exact kinds_eq_of_mem_iff fun kind => by rw [hkinds other hother, hkinds order horder]
  · rw [hsize other hother, hsize order horder]

/-- Filings with numbers of all shapes. Two kinds have an item with the same number. -/
def album : List (String × FormalItem) :=
  let p := Position.first
  let sect : SectionNumber := ⟨none, p⟩
  let inPart : SectionNumber := ⟨some ⟨p⟩, p⟩
  let item (number : FormalItemNumber) (kind : String) : FormalItem :=
    ⟨number, "T", kind, none, none, .listing kind⟩
  [("figure", item ⟨.ofSubsection ⟨inPart, p⟩, p⟩ "figure"),
    ("figure", item ⟨.ofSection inPart, p.next⟩ "figure"),
    ("table", item ⟨.ofSection sect, p⟩ "figure"),
    ("figure", item ⟨.ofSubsection ⟨sect, p⟩, p⟩ "figure"),
    ("figure", item ⟨.ofSection sect, p⟩ "figure")]

theorem insertAll_album_anyOrder : Distinct album ∧ album.reverse.Perm album ∧
    (itemsOf album "figure").map (fun f => f.number.text) = ["1.1.1.1", "1.1.2", "1.1.1", "1.1"] ∧
    ((empty.insertAll album.reverse).byKind "figure").map (fun f => f.number.text) =
      ["1.1", "1.1.1", "1.1.2", "1.1.1.1"] ∧
    (empty.insertAll album.reverse).kinds = ["figure", "table"] ∧
    (empty.insertAll album.reverse).size = 5 ∧
    (empty.insertAll album).byKind "figure" = (empty.insertAll album.reverse).byKind "figure" := by
  have hdistinct : Distinct album := by
    unfold Distinct
    decide +kernel
  have hperm : album.reverse.Perm album := List.reverse_perm album
  rcases insertAll_anyOrder hdistinct hperm with ⟨-, -, -, hsize, hother⟩
  refine ⟨hdistinct, hperm, ?_, ?_, ?_, hsize, (hother album (List.Perm.refl _)).1 "figure"⟩
  · decide +kernel
  · decide +kernel
  · decide +kernel

end FormalItems

end Manuscript
