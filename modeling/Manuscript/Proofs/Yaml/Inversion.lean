import Manuscript.Proofs.Yaml.Entries

/-!
# What Nodes Yield

What a node is read as comes down to what the nodes inside are read as, and this
can be said both ways. One lemma for each kind of node says what has to be
yielded inside, so readings are taken apart and put together by the same lemma.

A reference yields what the node it stands for yields, after one reference more.
The number of references of a collection is the sum of those of its items, its
fields, or its key and its value.

## Main definitions

* `Yaml.Node.IsDirect`: The node is no reference.
* `Yaml.Cases.demand`: The value of a case, or the fault that there is no such case.

## Theorems

* `Yaml.Schema.yields_reference_iff`: References.
* `Yaml.Schema.yields_sequence_iff`, `Yaml.yields_readItems_cons_iff`: Sequences and their items.
* `Yaml.Schema.yields_mapping_iff`: Records.
* `Yaml.Schema.yields_single_iff`, `Yaml.Cases.yields_select_iff`: Variants and their cases.
* `Yaml.Schema.yields_present_iff`: Optional values that are there.
* `Yaml.Schema.yields_echo`: A node that is given again and again.
-/

namespace Manuscript

namespace Yaml

namespace Reader

variable {α : Type} {targets : Array Node}

/-- A reading yields one value only. -/
theorem Yields.unique {r : References → Reader α} {m n : Nat} {a b : α}
    (h : Yields targets r m a) (h' : Yields targets r n b) : m = n ∧ a = b := by
  have hrun := (h (m + n) 0 (Nat.zero_le _)).symm.trans (h' (m + n) 0 (Nat.zero_le _))
  rw [if_pos (by omega), if_pos (by omega)] at hrun
  rcases Prod.mk.inj (Except.ok.inj hrun) with ⟨ha, hcount⟩
  exact ⟨by omega, ha⟩

/-- What does not look at the references follows none. -/
theorem yields_const_iff {x : Reader α} {count : Nat} {a : α} :
    Yields targets (fun _ => x) count a ↔ count = 0 ∧ x = pure a := by
  constructor
  · intro h
    -- Any limit is high enough, the lowest one as well.
    have hrun := (h count 0 (Nat.zero_le count)).symm.trans (h 0 0 (Nat.le_refl 0))
    rw [if_pos (Nat.le_of_eq (Nat.zero_add count))] at hrun
    have hzero : count = 0 := by
      by_contra hne
      rw [if_neg (by omega)] at hrun
      cases hrun
    subst hzero
    refine ⟨rfl, funext fun followed => ?_⟩
    exact (h followed followed (Nat.le_refl followed)).trans (if_pos (Nat.le_refl followed))
  · rintro ⟨rfl, rfl⟩
    exact yields_pure a

theorem yields_enter_bind_iff {f : Nat → References → Reader α} {depth count : Nat} {a : α} :
    Yields targets (fun refs => enter depth >>= fun d => f d refs) count a ↔
      ∃ d, depth = d + 1 ∧ Yields targets (f d) count a := by
  cases depth with
  | zero =>
      constructor
      · intro h
        cases h.ok
      · rintro ⟨d, hd, -⟩
        cases hd
  | succ d =>
      have henter : enter (d + 1) = pure d := rfl
      simp only [henter, pure_bind]
      constructor
      · intro h
        exact ⟨d, rfl, h⟩
      · rintro ⟨_, hd, h⟩
        cases hd
        exact h

end Reader

open Reader

variable {α β : Type} {targets : Array Node} {depth count : Nat}

/-! ### Scalars and references -/

theorem resolve_scalar (refs : References) (tag? : Option Tag) (style : ScalarStyle)
    (written : String) :
    refs.resolve (.scalar tag? style written) = pure (.scalar tag? style written) := rfl

/-- A scalar is read without any references. -/
theorem Schema.read_scalar (refs refs' : References) : ∀ {α : Type} (s : Schema α) (depth : Nat)
    (tag? : Option Tag) (style : ScalarStyle) (written : String),
    s.read refs depth (.scalar tag? style written) =
      s.read refs' depth (.scalar tag? style written)
  | _, .text, _, _, _, _ => by simp only [Schema.read, resolve_scalar]
  | _, .flag, _, _, _, _ => by simp only [Schema.read, resolve_scalar]
  | _, .word, _, _, _, _ => by simp only [Schema.read, resolve_scalar]
  | _, .optional inner, depth, tag?, style, written => by
      simp only [Schema.read, resolve_scalar, pure_bind,
        read_scalar refs refs' inner depth tag? style written]
  | _, .list item, _, _, _, _ => by simp only [Schema.read, resolve_scalar, pure_bind]
  | _, .record name fields build, _, _, _, _ => by
      simp only [Schema.read, resolve_scalar, pure_bind]
  | _, .variant name cases, _, _, _, _ => by simp only [Schema.read, resolve_scalar, pure_bind]

/-- Every reading starts with the node that a reference stands for. -/
theorem Schema.exists_read_resolved (s : Schema α) (depth : Nat) :
    ∃ read : References → Node → Reader α,
      ∀ refs n, s.read refs depth n = (refs.resolve n >>= read refs) := by
  cases s <;> exact ⟨_, fun _ _ => rfl⟩

/-- The node is no reference. -/
def Node.IsDirect (n : Node) : Prop := ∀ refs : References, refs.resolve n = pure n

/-- A reference takes one more reference to follow than the node it stands for. -/
theorem Schema.read_reference (s : Schema α) (depth : Nat) {slot limit followed : Nat} {n : Node}
    (hslot : targets[slot]? = some n) (hn : n.IsDirect) :
    s.read ⟨targets, limit⟩ depth (.alias slot) followed =
      if followed < limit then s.read ⟨targets, limit⟩ depth n (followed + 1)
      else .error .tooRepetitive := by
  rcases s.exists_read_resolved depth with ⟨read, hread⟩
  have hstep := resolve_reference targets limit slot followed
  rw [hslot, Option.getD_some] at hstep
  rw [hread, hread, hn, pure_bind]
  split
  · next hlt =>
      rw [if_pos hlt] at hstep
      exact bind_of_ok hstep
  · next hlt =>
      rw [if_neg hlt] at hstep
      exact bind_of_error hstep

theorem Schema.yields_reference_iff {s : Schema α} {slot : Nat} {n : Node} {a : α}
    (hslot : targets[slot]? = some n) (hn : n.IsDirect) :
    Yields targets (fun refs => s.read refs depth (.alias slot)) count a ↔
      ∃ rest, count = rest + 1 ∧ Yields targets (fun refs => s.read refs depth n) rest a := by
  constructor
  · intro h
    have hrun := (s.read_reference depth hslot hn).symm.trans h.ok
    split at hrun
    · next hlt =>
        rcases s.steady_read depth n count 1 a count hlt hrun with ⟨rest, hrest, hyields⟩
        exact ⟨rest, by omega, hyields⟩
    · cases hrun
  · rintro ⟨rest, rfl, h⟩ limit followed hle
    refine (s.read_reference depth hslot hn).trans ?_
    split
    · next hlt =>
        have hcount : followed + 1 + rest = followed + (rest + 1) := by omega
        exact (h limit (followed + 1) hlt).trans (by rw [hcount])
    · next hlt => rw [if_neg (by omega)]

/-! ### Equations -/

/-- The value of the case of a name, or the fault that there is no such case. -/
def Cases.demand (cases : Cases α) (name : String) : Option α → Reader α
  | none => blame (.unknownVariant name cases.names)
  | some a => pure a

section Equations

variable (refs : References) (depth : Nat) (tag? : Option Tag)

theorem Schema.read_sequence (item : Schema α) (items : List Node) :
    (Schema.list item).read refs depth (.sequence tag? items) =
      (enter depth >>= fun d => readItems (item.read refs d) 0 items) := by
  rw [Schema.read]
  exact pure_bind _ _

theorem Schema.read_mapping {ρ : Type} (name : String) (fields : Fields ρ)
    (build : ρ → Except String α) (entries : List (Node × Node)) :
    (Schema.record name fields build).read refs depth (.mapping tag? entries) =
      (enter depth >>= fun d => readEntries refs (fields.fill refs d) entries fields.noSlots >>=
        fields.build build) := by
  rw [Schema.read]
  exact pure_bind _ _

theorem Schema.read_present (inner : Schema α) {n : Node} (hn : n.IsDirect)
    (hpresent : isPresent n = .ok true) :
    (Schema.optional inner).read refs depth n =
      (inner.read refs depth n >>= fun a => pure (some a)) := by
  rw [Schema.read, hn refs, pure_bind, hpresent]

/-- A tag that names a case is refused. Otherwise the case is that of the key. -/
theorem Schema.read_single (name : String) (cases : Cases α) (key n : Node) :
    (Schema.variant name cases).read refs depth (.mapping tag? [(key, n)]) =
      if tag?.any Tag.isNamed then blame (.wrongType .tagged (.variant name))
      else enter depth >>= fun d => readKey refs .variantName key >>= fun found =>
        cases.select refs d found.1 found.2 n >>= cases.demand found.1 := by
  rw [Schema.read]
  refine (pure_bind _ _).trans ?_
  rw [hasCaseTag]
  cases tag?.any Tag.isNamed with
  | true => rfl
  | false =>
    simp only [Bool.false_eq_true, if_false]
    rfl

theorem Cases.select_other {case name : String} (h : case ≠ name) (value : Schema β)
    (inject : β → α) (rest : Cases α) (step : Step) (n : Node) :
    (Cases.cons case value inject rest).select refs depth name step n =
      rest.select refs depth name step n :=
  if_neg h

theorem Cases.select_self (name : String) (value : Schema β) (inject : β → α) (rest : Cases α)
    (step : Step) (n : Node) :
    (Cases.cons name value inject rest).select refs depth name step n =
      ((value.read refs depth n).under step >>= fun b => pure (some (inject b))) :=
  if_pos rfl

end Equations

/-! ### Collections -/

theorem yields_readItems_cons_iff {read : References → Node → Reader α}
    (hsteady : ∀ n, Steady targets (fun refs => read refs n)) {place : Nat} {n : Node}
    {items : List Node} {values : List α} :
    Yields targets (fun refs => readItems (read refs) place (n :: items)) count values ↔
      ∃ i j a others, count = i + j ∧ values = a :: others ∧
        Yields targets (fun refs => read refs n) i a ∧
          Yields targets (fun refs => readItems (read refs) (place + 1) items) j others := by
  have hrest := steady_readItems hsteady (place + 1) items
  constructor
  · intro h
    rcases h.of_bind ((hsteady n).under _) (fun a => hrest.bind fun others => steady_pure _) with
      ⟨i, a, j, rfl, hread, h⟩
    rcases h.of_map hrest with ⟨others, rfl, hothers⟩
    exact ⟨i, j, a, others, rfl, rfl, hread.of_under (hsteady n), hothers⟩
  · rintro ⟨i, j, a, others, rfl, rfl, hread, hothers⟩
    exact (hread.under (.index place)).bind (f := fun a refs =>
      readItems (read refs) (place + 1) items >>= fun others => pure (a :: others))
      (hothers.map (a :: ·))

theorem Schema.yields_sequence_iff {item : Schema α} {tag? : Option Tag} {items : List Node}
    {values : List α} :
    Yields targets (fun refs => (Schema.list item).read refs depth (.sequence tag? items)) count
        values ↔
      ∃ d, depth = d + 1 ∧
        Yields targets (fun refs => readItems (item.read refs d) 0 items) count values := by
  simp only [Schema.read_sequence]
  exact yields_enter_bind_iff (f := fun d refs => readItems (item.read refs d) 0 items)

theorem Schema.yields_mapping_iff {ρ : Type} {name : String} {fields : Fields ρ}
    {build : ρ → Except String α} {tag? : Option Tag} {entries : List (Node × Node)} {a : α} :
    Yields targets (fun refs =>
        (Schema.record name fields build).read refs depth (.mapping tag? entries)) count a ↔
      ∃ d slots, depth = d + 1 ∧ fields.Yields targets d entries count slots ∧
        fields.build build slots = pure a := by
  simp only [Schema.read_mapping]
  refine (yields_enter_bind_iff (f := fun d refs =>
    readEntries refs (fields.fill refs d) entries fields.noSlots >>= fields.build build)).trans ?_
  constructor
  · rintro ⟨d, rfl, h⟩
    rcases h.of_bind (steady_readEntries (fields.steady_fill d) entries fields.noSlots)
      (fields.steady_build build) with ⟨i, slots, j, rfl, hslots, h⟩
    rcases yields_const_iff.mp h with ⟨rfl, hbuild⟩
    exact ⟨d, slots, rfl, hslots, hbuild⟩
  · rintro ⟨d, slots, rfl, hslots, hbuild⟩
    exact ⟨d, rfl, hslots.bind (f := fun slots _ => fields.build build slots)
      (yields_const_iff.mpr ⟨rfl, hbuild⟩)⟩

/-- A value that is there is read as such. -/
theorem Schema.yields_present_iff {inner : Schema α} {n : Node} {a? : Option α} (hn : n.IsDirect)
    (hpresent : isPresent n = .ok true) :
    Yields targets (fun refs => (Schema.optional inner).read refs depth n) count a? ↔
      ∃ a, a? = some a ∧ Yields targets (fun refs => inner.read refs depth n) count a := by
  simp only [Schema.read_present _ _ _ hn hpresent]
  constructor
  · intro h
    exact h.of_map (inner.steady_read depth n)
  · rintro ⟨a, rfl, h⟩
    exact h.map some

theorem Cases.yields_select_iff {name : String} {value : Schema β} {inject : β → α}
    {rest : Cases α} {step : Step} {n : Node} {a? : Option α} :
    Yields targets (fun refs =>
        (Cases.cons name value inject rest).select refs depth name step n) count a? ↔
      ∃ b, a? = some (inject b) ∧ Yields targets (fun refs => value.read refs depth n) count b := by
  have hsteady : Steady targets (fun refs => value.read refs depth n) := value.steady_read depth n
  simp only [Cases.select_self]
  constructor
  · intro h
    rcases h.of_map (hsteady.under step) with ⟨b, hb, hread⟩
    exact ⟨b, hb, hread.of_under hsteady⟩
  · rintro ⟨b, rfl, hread⟩
    exact (hread.under step).map fun b => some (inject b)

theorem Cases.yields_demand_iff {cases : Cases α} {name : String} {a? : Option α} {a : α} :
    Yields targets (fun _ => cases.demand name a?) count a ↔ count = 0 ∧ a? = some a := by
  cases a? with
  | none =>
      constructor
      · intro h
        cases h.ok
      · rintro ⟨-, ha⟩
        cases ha
  | some b =>
      constructor
      · intro h
        rcases h.unique (yields_pure b) with ⟨rfl, rfl⟩
        exact ⟨rfl, rfl⟩
      · rintro ⟨rfl, hb⟩
        cases hb
        exact yields_pure a

/-- What is read of a variant is read by the case of its key. -/
theorem Schema.yields_single_iff {name : String} {cases : Cases α} {tag? : Option Tag}
    {key n : Node} {a : α} :
    Yields targets (fun refs =>
        (Schema.variant name cases).read refs depth (.mapping tag? [(key, n)])) count a ↔
      tag?.any Tag.isNamed = false ∧ ∃ d i j found, depth = d + 1 ∧ count = i + j ∧
        Yields targets (fun refs => readKey refs .variantName key) i found ∧
          Yields targets (fun refs => cases.select refs d found.1 found.2 n) j (some a) := by
  simp only [Schema.read_single]
  cases tag?.any Tag.isNamed with
  | true =>
      constructor
      · intro h
        cases h.ok
      · rintro ⟨htag, -⟩
        cases htag
  | false =>
      simp only [Bool.false_eq_true, if_false, true_and]
      refine (yields_enter_bind_iff (f := fun d refs => readKey refs .variantName key >>=
        fun found => cases.select refs d found.1 found.2 n >>= cases.demand found.1)).trans ?_
      constructor
      · rintro ⟨d, rfl, h⟩
        have hselect (found : String × Step) :
            Steady targets (fun refs => cases.select refs d found.1 found.2 n) :=
          cases.steady_select d found.1 found.2 n
        have hdemand (found : String × Step) (a? : Option α) :
            Steady targets (fun _ => cases.demand found.1 a?) := by
          cases a? with
          | none => exact steady_blame _
          | some a => exact steady_pure a
        rcases h.of_bind (steady_readKey _ key) (fun found => (hselect found).bind (hdemand found))
          with ⟨i, found, _, rfl, hfound, h⟩
        rcases h.of_bind (hselect found) (hdemand found) with ⟨j, a?, _, rfl, hread, hvalue⟩
        rcases Cases.yields_demand_iff.mp hvalue with ⟨rfl, rfl⟩
        exact ⟨d, i, j, found, rfl, rfl, hfound, hread⟩
      · rintro ⟨d, i, j, found, rfl, rfl, hfound, hread⟩
        refine ⟨d, rfl, hfound.bind (f := fun found refs =>
          cases.select refs d found.1 found.2 n >>= cases.demand found.1) ?_⟩
        exact hread.bind (f := fun a? _ => cases.demand found.1 a?) (yields_pure a)

/-- A record with the name of a case as its only key is read by that case. -/
theorem Schema.yields_variant {name key : String} {cases : Cases α} {value : Schema β}
    {inject : β → α} {n : Node} {b : β}
    (hselect : ∀ refs, cases.select refs depth key (.key key) n =
      ((value.read refs depth n).under (.key key) >>= fun b => pure (some (inject b))))
    (h : Yields targets (fun refs => value.read refs depth n) count b) :
    Yields targets (fun refs =>
      (Schema.variant name cases).read refs (depth + 1) (.record [(key, n)])) count (inject b) := by
  refine Schema.yields_single_iff.mpr ⟨rfl, depth, 0, count, (key, .key key), rfl,
    (Nat.zero_add count).symm, yields_pure _, ?_⟩
  simp only [hselect]
  exact (h.under (.key key)).map fun b => some (inject b)

/-- Each further reference to a node takes one reference more than the node does. -/
theorem Schema.yields_echo {item : Schema α} {n : Node} {a : α} (slot : Nat)
    (hslot : targets[slot]? = some n) (hn : n.IsDirect)
    (h : Yields targets (fun refs => item.read refs depth n) count a) (k : Nat) :
    Yields targets (fun refs =>
      (Schema.list item).read refs (depth + 1) (.list (n :: List.replicate k (.alias slot))))
      (count + k * (count + 1)) (List.replicate (k + 1) a) := by
  have hsteady (m : Node) : Steady targets (fun refs => item.read refs depth m) :=
    item.steady_read depth m
  have hreferences (place : Nat) : Yields targets (fun refs =>
      readItems (item.read refs depth) place (List.replicate k (.alias slot))) (k * (count + 1))
      (List.replicate k a) := by
    induction k generalizing place with
    | zero =>
        rw [Nat.zero_mul]
        exact yields_pure []
    | succ k ih =>
        have hfirst := (yields_reference_iff hslot hn).mpr ⟨count, rfl, h⟩
        rw [Nat.succ_mul, Nat.add_comm (k * (count + 1))]
        exact (yields_readItems_cons_iff hsteady).mpr
          ⟨_, _, a, _, rfl, rfl, hfirst, ih (place + 1)⟩
  exact yields_sequence_iff.mpr ⟨depth, rfl, (yields_readItems_cons_iff hsteady).mpr
    ⟨_, _, a, _, rfl, rfl, h, hreferences 1⟩⟩

end Yaml

end Manuscript
