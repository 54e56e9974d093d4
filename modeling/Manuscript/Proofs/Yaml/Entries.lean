import Manuscript.Proofs.Yaml.Following

/-!
# Entries in Any Order

The entries of a record fill the slots of its fields. Which slot an entry fills
is decided by its name, and entries of different names do not get in each
other's way. So the slot of a field is filled by what stands under its name, and
neither the place of the entry matters nor what stands under other names.

The entries are taken apart one field at a time: what is under the name of the
first field is read apart from the rest, and the others are read as if there
were no such field. The number of references that are followed is the sum of
both, wherever the entry stands.

## Main definitions

* `Yaml.valuesOf`: The nodes under a name.
* `Yaml.ScalarKeys`: All keys are scalars.
* `Yaml.Schema.Fills`: What the nodes under a name fill a slot with.

## Theorems

* `Yaml.Fields.yields_cons_iff`: The first field apart from the others.
-/

namespace Manuscript

namespace Yaml

open Reader

/-! ### Names of entries -/

/-- The text of a scalar. -/
def Node.text? : Node → Option String
  | .scalar _ _ s => some s
  | _ => none

/-- The nodes that stand under a name. -/
def valuesOf (name : String) (entries : List (Node × Node)) : List Node :=
  entries.filterMap fun e => if e.1.text? = some name then some e.2 else none

/-- All keys are scalars. -/
def ScalarKeys (entries : List (Node × Node)) : Prop := ∀ e ∈ entries, e.1.text?.isSome

instance (entries : List (Node × Node)) : Decidable (ScalarKeys entries) :=
  inferInstanceAs (Decidable (∀ e ∈ entries, e.1.text?.isSome))

theorem ScalarKeys.exists_head {entry : Node × Node} {entries : List (Node × Node)}
    (h : ScalarKeys (entry :: entries)) :
    (∃ tag? style name n, entry = (.scalar tag? style name, n)) ∧ ScalarKeys entries := by
  rcases List.forall_mem_cons.mp h with ⟨hhead, hrest⟩
  refine ⟨?_, hrest⟩
  match entry with
  | (.scalar tag? style name, n) => exact ⟨tag?, style, name, n, rfl⟩
  | (.sequence _ _, _) => cases hhead
  | (.mapping _ _, _) => cases hhead
  | (.alias _, _) => cases hhead

theorem valuesOf_self (name : String) (tag? : Option Tag) (style : ScalarStyle) (n : Node)
    (entries : List (Node × Node)) :
    valuesOf name ((.scalar tag? style name, n) :: entries) = n :: valuesOf name entries :=
  List.filterMap_cons_some (if_pos rfl)

theorem valuesOf_other {name other : String} (h : other ≠ name) (tag? : Option Tag)
    (style : ScalarStyle) (n : Node) (entries : List (Node × Node)) :
    valuesOf name ((.scalar tag? style other, n) :: entries) = valuesOf name entries :=
  List.filterMap_cons_none (if_neg fun heq => h (Option.some.inj heq))

/-- A node that stands under a name is the value of an entry. -/
theorem exists_of_valuesOf {name : String} {n : Node} {entries : List (Node × Node)}
    (h : valuesOf name entries = [n]) : ∃ before tag? style after,
      entries = before ++ (.scalar tag? style name, n) :: after ∧ valuesOf name before = [] ∧
        valuesOf name after = [] := by
  rcases List.filterMap_eq_cons_iff.mp h with ⟨before, ⟨key, m⟩, after, rfl, hbefore, hm, hafter⟩
  split at hm
  · next hkey =>
      match key with
      | .scalar tag? style s =>
          cases hkey
          cases hm
          exact ⟨before, tag?, style, after, rfl, List.filterMap_eq_nil_iff.mpr hbefore, hafter⟩
      | .sequence _ _ => cases hkey
      | .mapping _ _ => cases hkey
      | .alias _ => cases hkey
  · cases hm

/-! ### Reading of entries -/

variable {σ : Type} (refs : References)

theorem readEntries_scalar (fill : String → Step → Node → σ → Reader σ) (tag? : Option Tag)
    (style : ScalarStyle) (name : String) (n : Node) (entries : List (Node × Node)) (slots : σ) :
    readEntries refs fill ((.scalar tag? style name, n) :: entries) slots =
      (fill name (.key name) n slots >>= readEntries refs fill entries) :=
  rfl

theorem readEntries_append (fill : String → Step → Node → σ → Reader σ)
    (before after : List (Node × Node)) (slots : σ) :
    readEntries refs fill (before ++ after) slots =
      (readEntries refs fill before slots >>= readEntries refs fill after) := by
  induction before generalizing slots with
  | nil => rw [List.nil_append, readEntries, pure_bind]
  | cons entry rest ih =>
      rw [List.cons_append, readEntries, readEntries]
      simp only [bind_assoc, ih]

namespace Fields

/-- An entry whose name is no field's is passed over. -/
theorem fill_unknown : ∀ {ρ : Type} {f : Fields ρ} {name : String} (_ : name ∉ f.names)
    (depth : Nat) (step : Step) (n : Node) (slots : f.Slots),
    f.fill refs depth name step n slots = pure slots
  | _, .nil, _, _, _, _, _, _ => rfl
  | _, .cons field default? value rest, name, h, depth, step, n, slots => by
      rcases exists_slot slots with ⟨a?, others, rfl⟩
      rw [names, List.mem_cons, not_or] at h
      rw [fill_other (Ne.symm h.1), fill_unknown h.2, pure_bind]

section Cons

variable {α ρ : Type} {name : String} {default? : Option α} {value : Schema α} {rest : Fields ρ}
  {entries : List (Node × Node)} (depth : Nat)

/-- Where nothing stands under the name of the first field, its slot is left as it is. -/
theorem readEntries_missing (hkeys : ScalarKeys entries) (h : valuesOf name entries = [])
    (a? : Option α) (slots : rest.Slots) :
    readEntries refs ((cons name default? value rest).fill refs depth) entries (slot a? slots) =
      (readEntries refs (rest.fill refs depth) entries slots >>=
        fun slots => pure (slot a? slots)) := by
  induction entries generalizing slots with
  | nil => rfl
  | cons entry entries ih =>
      rcases hkeys.exists_head with ⟨⟨tag?, style, other, n, rfl⟩, hrest⟩
      by_cases hname : other = name
      · subst hname
        rw [valuesOf_self] at h
        cases h
      · rw [valuesOf_other hname] at h
        rw [readEntries_scalar, readEntries_scalar, fill_other (Ne.symm hname), bind_assoc,
          bind_assoc]
        simp only [pure_bind]
        exact congrArg _ (funext fun slots => ih hrest h slots)

/-- An entry of the first field is read between the entries around it. -/
theorem readEntries_given (tag? : Option Tag) (style : ScalarStyle) (n : Node)
    {before after : List (Node × Node)} (hbefore : ScalarKeys before) (hafter : ScalarKeys after)
    (h : valuesOf name before = []) (h' : valuesOf name after = []) (slots : rest.Slots) :
    readEntries refs ((cons name default? value rest).fill refs depth)
        (before ++ (.scalar tag? style name, n) :: after) (slot none slots) =
      (readEntries refs (rest.fill refs depth) before slots >>= fun slots =>
        (value.read refs depth n).under (.key name) >>= fun a =>
          readEntries refs (rest.fill refs depth) after slots >>= fun slots =>
            pure (slot (some a) slots)) := by
  rw [readEntries_append, readEntries_missing refs depth hbefore h, bind_assoc]
  simp only [pure_bind, readEntries_scalar, fill_self, bind_assoc,
    readEntries_missing refs depth hafter h']

/-- For the other fields there is no such entry. -/
theorem readEntries_skip (hname : name ∉ rest.names) (tag? : Option Tag) (style : ScalarStyle)
    (n : Node) (before after : List (Node × Node)) (slots : rest.Slots) :
    readEntries refs (rest.fill refs depth) (before ++ (.scalar tag? style name, n) :: after)
        slots =
      (readEntries refs (rest.fill refs depth) before slots >>=
        readEntries refs (rest.fill refs depth) after) := by
  rw [readEntries_append]
  refine congrArg _ (funext fun slots => ?_)
  rw [readEntries_scalar, fill_unknown refs hname, pure_bind]

end Cons

end Fields

/-! ### One field apart from the others -/

/-- What the nodes under the name of a field fill its slot with, and how many references that
    takes. -/
inductive Schema.Fills {α : Type} (targets : Array Node) (s : Schema α) (depth : Nat) :
    List Node → Nat → Option α → Prop where
  | missing : s.Fills targets depth [] 0 none
  | given {n : Node} {count : Nat} {a : α}
      (h : Yields targets (fun refs => s.read refs depth n) count a) :
      s.Fills targets depth [n] count (some a)

theorem Schema.Fills.length_le {α : Type} {targets : Array Node} {s : Schema α}
    {depth count : Nat} {nodes : List Node} {a? : Option α}
    (h : s.Fills targets depth nodes count a?) : nodes.length ≤ 1 := by
  cases h with
  | missing => exact Nat.zero_le 1
  | given _ => exact Nat.le_refl 1

namespace Fields

variable {targets : Array Node}

/-- The slots are filled with values by entries, after so many references. -/
def Yields {ρ : Type} (f : Fields ρ) (targets : Array Node) (depth : Nat)
    (entries : List (Node × Node)) (count : Nat) (slots : f.Slots) : Prop :=
  Reader.Yields targets (fun refs => readEntries refs (f.fill refs depth) entries f.noSlots)
    count slots

/-- Without any fields, all entries are passed over. -/
theorem yields_nil (depth : Nat) {entries : List (Node × Node)} (hkeys : ScalarKeys entries) :
    nil.Yields targets depth entries 0 nil.noSlots := by
  have hread (refs : References) (slots : nil.Slots) :
      readEntries refs (nil.fill refs depth) entries slots = pure slots := by
    induction entries with
    | nil => rfl
    | cons entry rest ih =>
        rcases hkeys.exists_head with ⟨⟨tag?, style, name, n, rfl⟩, hrest⟩
        rw [readEntries_scalar, fill_unknown refs List.not_mem_nil, pure_bind, ih hrest]
  unfold Yields
  simp only [hread]
  exact yields_pure _

/-- The first field is filled by what stands under its name, and the others are filled as if it
    were not there. -/
theorem yields_cons_iff {α ρ : Type} {name : String} {default? : Option α} {value : Schema α}
    {rest : Fields ρ} {depth : Nat} {entries : List (Node × Node)} {count : Nat}
    {slots : (cons name default? value rest).Slots} (hkeys : ScalarKeys entries)
    (hname : name ∉ rest.names) (hone : (valuesOf name entries).length ≤ 1) :
    (cons name default? value rest).Yields targets depth entries count slots ↔
      ∃ m n a? others, count = m + n ∧ slots = slot a? others ∧
        value.Fills targets depth (valuesOf name entries) m a? ∧
          rest.Yields targets depth entries n others := by
  unfold Yields
  rw [noSlots_cons]
  cases hvalues : valuesOf name entries with
  | nil =>
      simp only [readEntries_missing _ depth hkeys hvalues]
      constructor
      · intro h
        rcases h.of_map (steady_readEntries (rest.steady_fill depth) entries _) with
          ⟨others, rfl, hrest⟩
        exact ⟨0, count, none, others, (Nat.zero_add count).symm, rfl, .missing, hrest⟩
      · rintro ⟨m, n, a?, others, rfl, rfl, hfills, hrest⟩
        cases hfills
        rw [Nat.zero_add]
        exact hrest.map _
  | cons n nodes =>
      rw [hvalues, List.length_cons] at hone
      have hnodes : nodes = [] := List.length_eq_zero_iff.mp (by omega)
      rw [hnodes] at hvalues ⊢
      rcases exists_of_valuesOf hvalues with ⟨before, tag?, style, after, rfl, hbefore, hafter⟩
      have hkeys' := List.forall_mem_append.mp hkeys
      simp only [readEntries_given _ depth tag? style n hkeys'.1
        (List.forall_mem_cons.mp hkeys'.2).2 hbefore hafter, readEntries_skip _ depth hname]
      have hsteady (entries : List (Node × Node)) (slots : rest.Slots) :
          Steady targets (fun refs => readEntries refs (rest.fill refs depth) entries slots) :=
        steady_readEntries (rest.steady_fill depth) entries slots
      have hvalue : Steady targets (fun refs => (value.read refs depth n).under (.key name)) :=
        (value.steady_read depth n).under (.key name)
      constructor
      · intro h
        rcases h.of_bind (hsteady before _) (fun filled => hvalue.bind fun a =>
          (hsteady after filled).bind fun _ => steady_pure _) with ⟨i, filled, _, rfl, hfirst, h⟩
        rcases h.of_bind hvalue (fun a => (hsteady after filled).bind fun _ => steady_pure _)
          with ⟨m, a, j, rfl, hread, h⟩
        rcases h.of_map (hsteady after filled) with ⟨others, rfl, hlast⟩
        exact ⟨m, i + j, some a, others, by omega, rfl,
          .given (hread.of_under (value.steady_read depth n)), hfirst.bind hlast⟩
      · rintro ⟨m, i, a?, others, rfl, rfl, hfills, hrest⟩
        cases hfills with
        | given hread =>
        rcases hrest.of_bind (hsteady before _) (hsteady after) with
          ⟨i, filled, j, rfl, hfirst, hlast⟩
        rw [Nat.add_left_comm]
        exact hfirst.bind ((hread.under (.key name)).bind (hlast.map _))

/-- The first field together with the others. -/
theorem yields_cons {α ρ : Type} {name : String} {default? : Option α} {value : Schema α}
    {rest : Fields ρ} {depth : Nat} {entries : List (Node × Node)} {m n : Nat} {a? : Option α}
    {others : rest.Slots} (hkeys : ScalarKeys entries) (hname : name ∉ rest.names)
    (hfills : value.Fills targets depth (valuesOf name entries) m a?)
    (h : rest.Yields targets depth entries n others) :
    (Fields.cons name default? value rest).Yields targets depth entries (m + n) (slot a? others) :=
  (yields_cons_iff hkeys hname hfills.length_le).mpr ⟨m, n, a?, others, rfl, rfl, hfills, h⟩

end Fields

end Yaml

end Manuscript
