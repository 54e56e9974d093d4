import Manuscript.Proofs.Yaml.Records

/-!
# References that Are Followed

Reading counts the references it follows and ends where there are more than the
limit allows. Apart from that the count has no effect: a reading that gives a
value once gives it at any count and under any limit, and follows the same
number of references, unless these are too many. `Reader.Steady` says so of a
reading, and every reading by a schema is steady.

What a steady reading gives is said by `Reader.Yields`, the value together with
how many references it takes. It is said of all limits at once, and this is why
it can be taken apart: a limit that is high enough lets both halves of a reading
through, so each of them yields something.

## Main definitions

* `Yaml.Reader.Yields`: A reading gives a value after so many references.
* `Yaml.Reader.Steady`: What a reading gives depends on the limit only.

## Theorems

* `Yaml.Reader.Yields.bind`, `Yaml.Reader.Yields.of_bind`: One reading after another.
* `Yaml.Schema.steady_read`: Readings by a schema are steady.
-/

namespace Manuscript

namespace Yaml

namespace Reader

variable {α β : Type} {targets : Array Node} {r : References → Reader α}

/-- The reading gives the value after so many references. It fails if that exceeds the limit. -/
def Yields (targets : Array Node) (r : References → Reader α) (count : Nat) (a : α) : Prop :=
  ∀ limit followed, followed ≤ limit →
    r ⟨targets, limit⟩ followed =
      if followed + count ≤ limit then .ok (a, followed + count) else .error .tooRepetitive

/-- The reading gives the same value after the same number of references wherever it starts. -/
def Steady (targets : Array Node) (r : References → Reader α) : Prop :=
  ∀ limit followed a after, followed ≤ limit → r ⟨targets, limit⟩ followed = .ok (a, after) →
    ∃ count, after = followed + count ∧ Yields targets r count a

/-! ### One reading after another -/

theorem bind_of_ok {r : Reader α} {f : α → Reader β} {followed after : Nat} {a : α}
    (h : r followed = .ok (a, after)) : (r >>= f) followed = f a after := by
  change (r followed >>= fun p => f p.1 p.2) = f a after
  rw [h]
  rfl

theorem bind_of_error {r : Reader α} {f : α → Reader β} {followed : Nat} {e : Failure}
    (h : r followed = .error e) : (r >>= f) followed = .error e := by
  change (r followed >>= fun p => f p.1 p.2) = .error e
  rw [h]
  rfl

theorem exists_of_bind_ok {r : Reader α} {f : α → Reader β} {followed after : Nat} {b : β}
    (h : (r >>= f) followed = .ok (b, after)) :
    ∃ a between, r followed = .ok (a, between) ∧ f a between = .ok (b, after) := by
  cases hr : r followed with
  | error e => rw [bind_of_error hr] at h; cases h
  | ok p => exact ⟨p.1, p.2, rfl, (bind_of_ok hr).symm.trans h⟩

theorem under_of_ok {r : Reader α} {followed after : Nat} {a : α}
    (h : r followed = .ok (a, after)) (step : Step) : r.under step followed = .ok (a, after) := by
  change (r followed).mapError (·.under step) = _
  rw [h]
  rfl

theorem under_of_error {r : Reader α} {followed : Nat} {e : Failure}
    (h : r followed = .error e) (step : Step) :
    r.under step followed = .error (e.under step) := by
  change (r followed).mapError (·.under step) = _
  rw [h]
  rfl

theorem under_eq_ok_iff {r : Reader α} {step : Step} {followed : Nat} {p : α × Nat} :
    r.under step followed = .ok p ↔ r followed = .ok p := by
  cases hr : r followed with
  | error e =>
      rw [under_of_error hr]
      exact ⟨(fun h => nomatch h), (fun h => nomatch h)⟩
  | ok q => rw [under_of_ok hr]

theorem yields_pure (a : α) : Yields targets (fun _ => pure a) 0 a := by
  intro limit followed h
  rw [Nat.add_zero, if_pos h]
  rfl

/-- A reading that yields a value gives it where the limit is high enough. -/
theorem Yields.ok {count : Nat} {a : α} (h : Yields targets r count a) :
    r ⟨targets, count⟩ 0 = .ok (a, count) := by
  rw [h count 0 (Nat.zero_le count), Nat.zero_add, if_pos (Nat.le_refl count)]

theorem Yields.le_of_ok {count limit followed after : Nat} {a b : α}
    (h : Yields targets r count a) (hle : followed ≤ limit)
    (hok : r ⟨targets, limit⟩ followed = .ok (b, after)) : followed + count ≤ limit := by
  rw [h limit followed hle] at hok
  by_contra hnot
  rw [if_neg hnot] at hok
  cases hok

theorem Yields.congr_count {m n : Nat} {a : α} (h : Yields targets r m a) (hcount : m = n) :
    Yields targets r n a := hcount ▸ h

theorem Yields.bind {f : α → References → Reader β} {m n : Nat} {a : α} {b : β}
    (hr : Yields targets r m a) (hf : Yields targets (f a) n b) :
    Yields targets (fun refs => r refs >>= fun a => f a refs) (m + n) b := by
  intro limit followed hle
  have hfirst := hr limit followed hle
  by_cases hm : followed + m ≤ limit
  · rw [if_pos hm] at hfirst
    rw [← Nat.add_assoc]
    exact (bind_of_ok hfirst).trans (hf limit (followed + m) hm)
  · -- The first reading follows too many references already.
    have hall : ¬followed + (m + n) ≤ limit := by omega
    rw [if_neg hm] at hfirst
    rw [if_neg hall]
    exact bind_of_error hfirst

theorem Yields.map {m : Nat} {a : α} (h : Yields targets r m a) (f : α → β) :
    Yields targets (fun refs => r refs >>= fun a => pure (f a)) m (f a) :=
  h.bind (f := fun a _ => pure (f a)) (yields_pure (f a))

/-- If one reading after another yields a value, then each of them yields something. -/
theorem Yields.of_bind {f : α → References → Reader β} {count : Nat} {b : β}
    (h : Yields targets (fun refs => r refs >>= fun a => f a refs) count b)
    (hr : Steady targets r) (hf : ∀ a, Steady targets (f a)) :
    ∃ m a n, count = m + n ∧ Yields targets r m a ∧ Yields targets (f a) n b := by
  -- A limit that is just high enough for both is high enough for each.
  rcases exists_of_bind_ok h.ok with ⟨a, between, hfirst, hsecond⟩
  rcases hr count 0 a between (Nat.zero_le count) hfirst with ⟨m, hm, hyields⟩
  have hle : between ≤ count := hm ▸ hyields.le_of_ok (Nat.zero_le count) hfirst
  rcases hf a count between b count hle hsecond with ⟨n, hn, hyields'⟩
  exact ⟨m, a, n, by omega, hyields, hyields'⟩

/-! ### Steady readings -/

theorem steady_pure (a : α) : Steady targets (fun _ => pure a) := by
  intro limit followed b after _ h
  cases h
  exact ⟨0, rfl, yields_pure a⟩

theorem Yields.of_map {f : α → β} {count : Nat} {b : β}
    (h : Yields targets (fun refs => r refs >>= fun a => pure (f a)) count b)
    (hr : Steady targets r) : ∃ a, b = f a ∧ Yields targets r count a := by
  rcases h.of_bind (f := fun a _ => pure (f a)) hr (fun a => steady_pure (f a)) with
    ⟨m, a, n, rfl, hyields, hpure⟩
  cases hpure.ok
  exact ⟨a, rfl, hyields⟩

theorem steady_throw (e : Failure) : Steady targets (fun _ => (throw e : Reader α)) := by
  intro limit followed a after _ h
  cases h

theorem steady_blame (fault : Fault) : Steady targets (fun _ => (blame fault : Reader α)) :=
  steady_throw _

theorem Steady.bind {f : α → References → Reader β} (hr : Steady targets r)
    (hf : ∀ a, Steady targets (f a)) :
    Steady targets (fun refs => r refs >>= fun a => f a refs) := by
  intro limit followed b after hle h
  rcases exists_of_bind_ok h with ⟨a, between, hfirst, hsecond⟩
  rcases hr limit followed a between hle hfirst with ⟨m, rfl, hyields⟩
  rcases hf a limit _ b after (hyields.le_of_ok hle hfirst) hsecond with ⟨n, rfl, hyields'⟩
  exact ⟨m + n, Nat.add_assoc .., hyields.bind hyields'⟩

theorem Yields.under {count : Nat} {a : α} (h : Yields targets r count a) (step : Step) :
    Yields targets (fun refs => (r refs).under step) count a := by
  intro limit followed hle
  have hr := h limit followed hle
  by_cases hcount : followed + count ≤ limit
  · rw [if_pos hcount] at hr ⊢
    exact under_of_ok hr step
  · rw [if_neg hcount] at hr ⊢
    exact under_of_error hr step

theorem Yields.of_under {step : Step} {count : Nat} {a : α}
    (h : Yields targets (fun refs => (r refs).under step) count a) (hr : Steady targets r) :
    Yields targets r count a := by
  rcases hr count 0 a count (Nat.zero_le count) (under_eq_ok_iff.mp h.ok) with ⟨n, hn, hyields⟩
  rwa [hn, Nat.zero_add]

theorem Steady.under (h : Steady targets r) (step : Step) :
    Steady targets (fun refs => (r refs).under step) := by
  intro limit followed a after hle hok
  rcases h limit followed a after hle (under_eq_ok_iff.mp hok) with ⟨count, hcount, hyields⟩
  exact ⟨count, hcount, hyields.under step⟩

/-- Nothing is read after a fault. -/
theorem steady_blame_bind (fault : Fault) (f : β → References → Reader α) :
    Steady targets (fun refs => blame fault >>= fun b => f b refs) := by
  intro limit followed a after _ h
  rcases exists_of_bind_ok h with ⟨_, _, hfault, -⟩
  cases hfault

theorem steady_ite {p : Prop} [Decidable p] {q : References → Reader α} (hr : Steady targets r)
    (hq : Steady targets q) : Steady targets (fun refs => if p then r refs else q refs) := by
  split
  · exact hr
  · exact hq

/-! ### What reading is made of -/

/-- A reference takes one more reference to follow. -/
theorem resolve_reference (targets : Array Node) (limit slot followed : Nat) :
    (References.mk targets limit).resolve (.alias slot) followed =
      if followed < limit then .ok (targets[slot]?.getD .empty, followed + 1)
      else .error .tooRepetitive := by
  change ((if followed < limit then _ else _ : Reader Node) followed) = _
  split
  · rfl
  · rfl

theorem yields_reference (targets : Array Node) (slot : Nat) :
    Yields targets (fun refs => refs.resolve (.alias slot)) 1
      (targets[slot]?.getD .empty) :=
  fun limit followed _ => resolve_reference targets limit slot followed

theorem steady_resolve (n : Node) : Steady targets (fun refs => refs.resolve n) := by
  match n with
  | .scalar _ _ _ => exact steady_pure _
  | .sequence _ _ => exact steady_pure _
  | .mapping _ _ => exact steady_pure _
  | .alias slot =>
      intro limit followed m after _ h
      have hstep := (resolve_reference targets limit slot followed).symm.trans h
      refine ⟨1, ?_⟩
      split at hstep
      · cases hstep
        exact ⟨rfl, yields_reference targets slot⟩
      · cases hstep

theorem steady_enter (depth : Nat) : Steady targets (fun _ => enter depth) := by
  cases depth with
  | zero => exact steady_throw _
  | succ depth => exact steady_pure _

end Reader

open Reader

variable {targets : Array Node}

theorem steady_readText (expected : Expected) (n : Node) :
    Steady targets (fun _ => readText expected n) := by
  unfold readText
  split
  · exact steady_pure _
  · exact steady_blame _

theorem steady_readFlag (n : Node) : Steady targets (fun _ => readFlag n) := by
  unfold readFlag
  dsimp only
  split
  · exact steady_pure _
  · exact steady_blame _

theorem steady_readWord (n : Node) : Steady targets (fun _ => readWord n) := by
  unfold readWord
  split
  · split
    · exact steady_pure _
    · exact steady_throw _
  · exact steady_throw _

theorem steady_readKey (expected : Expected) (key : Node) :
    Steady targets (fun refs => readKey refs expected key) :=
  (steady_resolve key).bind fun m => (steady_readText expected m).bind fun _ => steady_pure _

theorem steady_readItems {α : Type} {read : References → Node → Reader α}
    (h : ∀ n, Steady targets (fun refs => read refs n)) (place : Nat) (items : List Node) :
    Steady targets (fun refs => readItems (read refs) place items) := by
  induction items generalizing place with
  | nil => exact steady_pure _
  | cons n rest ih =>
      exact ((h n).under _).bind fun a => (ih (place + 1)).bind fun others => steady_pure _

theorem steady_readEntries {σ : Type} {fill : References → String → Step → Node → σ → Reader σ}
    (h : ∀ name step n slots, Steady targets (fun refs => fill refs name step n slots))
    (entries : List (Node × Node)) (slots : σ) :
    Steady targets (fun refs => readEntries refs (fill refs) entries slots) := by
  induction entries generalizing slots with
  | nil => exact steady_pure _
  | cons entry rest ih =>
      exact (steady_readKey _ _).bind fun found => (h _ _ _ _).bind fun slots => ih slots

theorem Fields.steady_build {ρ α : Type} (f : Fields ρ) (build : ρ → Except String α)
    (slots : f.Slots) : Steady targets (fun _ => f.build build slots) := by
  unfold Fields.build
  split
  · exact steady_throw _
  · split
    · exact steady_throw _
    · exact steady_pure _

namespace Fields

variable {α ρ : Type} {name : String} {default? : Option α} {value : Schema α} {rest : Fields ρ}

theorem exists_slot (slots : (cons name default? value rest).Slots) :
    ∃ a? others, slots = slot a? others := ⟨slots.1, slots.2, rfl⟩

/-- A field that is there already is not filled again. -/
theorem fill_twice (refs : References) (depth : Nat) (step : Step) (n : Node) (a : α)
    (slots : rest.Slots) :
    (cons name default? value rest).fill refs depth name step n (slot (some a) slots) =
      blame (.duplicateField name) :=
  if_pos rfl

end Fields

mutual

/-- What is read by a schema depends on the limit only. -/
theorem Schema.steady_read : ∀ {α : Type} (s : Schema α) (depth : Nat) (n : Node),
    Steady targets (fun refs => s.read refs depth n)
  | _, .text, depth, n => (steady_resolve n).bind fun m => steady_readText _ m
  | _, .flag, depth, n => (steady_resolve n).bind fun m => steady_readFlag m
  | _, .word, depth, n => (steady_resolve n).bind fun m => steady_readWord m
  | _, .optional inner, depth, n => by
      refine (steady_resolve n).bind fun m => ?_
      cases isPresent m with
      | error e => exact steady_throw e
      | ok present =>
          cases present with
          | false => exact steady_pure none
          | true => exact (inner.steady_read depth m).bind fun a => steady_pure (some a)
  | _, .list item, depth, n => by
      refine (steady_resolve n).bind fun m => ?_
      match m with
      | .sequence _ items =>
          exact (steady_enter depth).bind fun d => steady_readItems (item.steady_read d) 0 items
      | .scalar _ _ _ =>
          dsimp only
          split
          · exact steady_pure _
          · exact steady_blame _
      | .mapping _ _ => exact steady_throw _
      | .alias _ => exact steady_throw _
  | _, .record name fields build, depth, n => by
      refine (steady_resolve n).bind fun m => ?_
      match m with
      | .mapping _ entries =>
          exact (steady_enter depth).bind fun d =>
            (steady_readEntries (fields.steady_fill d) entries _).bind fun slots =>
              fields.steady_build build slots
      | .scalar _ _ _ =>
          dsimp only
          split
          · exact fields.steady_build build _
          · exact steady_blame _
      | .sequence _ _ => exact steady_throw _
      | .alias _ => exact steady_throw _
  | _, .variant name cases, depth, n => by
      refine (steady_resolve n).bind fun m => ?_
      cases htag : hasCaseTag m with
      | true =>
          -- A tag that names a case is refused before the node is looked at.
          simp only [if_true]
          exact steady_blame_bind _ _
      | false =>
          simp only [Bool.false_eq_true, if_false]
          match m with
          | .mapping _ entries =>
              refine (steady_enter depth).bind fun d => ?_
              match entries with
              | [] => exact steady_blame _
              | (key, value) :: rest =>
                  refine (steady_readKey _ key).bind fun found => ?_
                  refine (cases.steady_select d found.1 found.2 value).bind fun a? => ?_
                  cases a? with
                  | none => exact steady_blame _
                  | some a => exact steady_ite (steady_pure a) (steady_blame _)
          | .sequence _ items => exact (steady_enter depth).bind fun _ => steady_throw _
          | .scalar _ _ _ => exact steady_throw _
          | .alias _ => exact steady_throw _

theorem Fields.steady_fill : ∀ {ρ : Type} (f : Fields ρ) (depth : Nat) (name : String)
    (step : Step) (n : Node) (slots : f.Slots),
    Steady targets (fun refs => f.fill refs depth name step n slots)
  | _, .nil, _, _, _, _, slots => steady_pure slots
  | _, .cons field default? schema rest, depth, name, step, n, slots => by
      rcases Fields.exists_slot slots with ⟨a?, others, rfl⟩
      by_cases hname : field = name
      · subst hname
        cases a? with
        | none =>
            simp only [Fields.fill_self]
            exact ((schema.steady_read depth n).under step).bind fun a => steady_pure _
        | some a =>
            simp only [Fields.fill_twice]
            exact steady_blame _
      · simp only [Fields.fill_other hname]
        exact (rest.steady_fill depth name step n others).bind fun others => steady_pure _

theorem Cases.steady_select : ∀ {α : Type} (c : Cases α) (depth : Nat) (name : String)
    (step : Step) (n : Node), Steady targets (fun refs => c.select refs depth name step n)
  | _, .nil, _, _, _, _ => steady_pure none
  | _, .cons case schema inject rest, depth, name, step, n => by
      unfold Cases.select
      by_cases hname : case = name
      · simp only [if_pos hname]
        exact ((schema.steady_read depth n).under step).bind fun a => steady_pure _
      · simp only [if_neg hname]
        exact rest.steady_select depth name step n

end

end Yaml

end Manuscript
