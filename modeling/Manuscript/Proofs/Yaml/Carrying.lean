import Manuscript.Proofs.Yaml.Inversion
import Manuscript.Proofs.Yaml.Variation

/-!
# Reading of Variations

What is read of a node is read of its variations as well, after as many
references. It is shown along the schema. For a record, one field after the
other is taken apart from the entries on both sides, and what it is filled with
differs only where both sides come to the value that the field has of its own.

Failures do not carry over. An entry with a fault comes before or after another
one, so in another order another fault may be found first.

The number of references is the same, but a document of another size has
another limit. So a document is read as its variation is, or it has too many
references.

## Main definitions

* `Yaml.Reader.Carries`: What one reading yields, another one yields too.
* `Yaml.Schema.VariesTree`: Two documents tell the same to a reader by the schema.

## Theorems

* `Yaml.Schema.carries_inside`: What is read of a node is read of its variations.
* `Yaml.Schema.VariesTree.readTree`: The same for documents, up to the limit of references.
-/

namespace Manuscript

namespace Yaml

namespace Reader

variable {α β : Type} {targets targets' : Array Node}

/-! ### What carries over -/

/-- What the first reading yields, the second one yields as well, after as many references. There
    are none if nothing can be referred to. -/
def Carries (targets targets' : Array Node) (r r' : References → Reader α) : Prop :=
  ∀ count a, Yields targets r count a →
    Yields targets' r' count a ∧ (targets = #[] → count = 0)

theorem carries_const (x : Reader α) : Carries targets targets' (fun _ => x) (fun _ => x) := by
  intro count a h
  rcases yields_const_iff.mp h with ⟨rfl, rfl⟩
  exact ⟨yields_pure a, fun _ => rfl⟩

end Reader

open Reader

variable {α β : Type} {targets targets' : Array Node}

/-! ### Nodes -/

theorem Schema.isDirect_of_inside : ∀ {α : Type} (s : Schema α) {n n' : Node},
    s.Inside targets targets' n n' → n.IsDirect ∧ n'.IsDirect ∧
      isPresent n = .ok true ∧ isPresent n' = .ok true
  | _, .text, _, _, h => h.elim
  | _, .flag, _, _, h => h.elim
  | _, .word, _, _, h => h.elim
  | _, .optional inner, _, _, h => inner.isDirect_of_inside h
  | _, .list item, _, _, h => by
      cases h
      exact ⟨fun _ => rfl, fun _ => rfl, rfl, rfl⟩
  | _, .record _ fields _, _, _, h => by
      cases h
      exact ⟨fun _ => rfl, fun _ => rfl, rfl, rfl⟩
  | _, .variant _ cases, _, _, h => by
      cases h
      exact ⟨fun _ => rfl, fun _ => rfl, rfl, rfl⟩

/-- What carries over for collections carries over for all nodes. -/
theorem Schema.carries_of_inside {s : Schema α} {depth : Nat}
    (hinside : ∀ {n n'}, s.Inside targets targets' n n' →
      Carries targets targets' (fun refs => s.read refs depth n) (fun refs => s.read refs depth n'))
    {n n' : Node} (h : s.Varies targets targets' n n') :
    Carries targets targets' (fun refs => s.read refs depth n)
      (fun refs => s.read refs depth n') := by
  have hsame {n n' : Node} (h : Node.Same (s.Inside targets targets') n n') :
      Carries targets targets' (fun refs => s.read refs depth n)
        (fun refs => s.read refs depth n') ∧ n.IsDirect ∧ n'.IsDirect := by
    cases h with
    | scalar tag? style written =>
        refine ⟨?_, fun _ => rfl, fun _ => rfl⟩
        have hread (refs : References) := s.read_scalar refs ⟨#[], 0⟩ depth tag? style written
        simp only [hread]
        exact carries_const _
    | collection h =>
        have hdirect := s.isDirect_of_inside h
        exact ⟨hinside h, hdirect.1, hdirect.2.1⟩
  cases h with
  | node h => exact (hsame h).1
  | reference hi hj h =>
      rcases hsame h with ⟨hcarries, hn, hn'⟩
      intro count a ha
      rcases (yields_reference_iff hi hn).mp ha with ⟨rest, rfl, hrest⟩
      refine ⟨(yields_reference_iff hj hn').mpr ⟨rest, rfl, (hcarries rest a hrest).1⟩, ?_⟩
      rintro rfl
      cases hi

/-! ### Items and keys -/

theorem carries_readItems {read : References → Node → Reader α} {items items' : List Node}
    (hsteady : ∀ n, Steady targets (fun refs => read refs n))
    (hsteady' : ∀ n, Steady targets' (fun refs => read refs n))
    (h : List.Forall₂ (fun n n' =>
      Carries targets targets' (fun refs => read refs n) (fun refs => read refs n')) items items')
    (place : Nat) :
    Carries targets targets' (fun refs => readItems (read refs) place items)
      (fun refs => readItems (read refs) place items') := by
  induction h generalizing place with
  | nil => exact carries_const _
  | cons hn _ ih =>
      intro count values hvalues
      rcases (yields_readItems_cons_iff hsteady).mp hvalues with
        ⟨i, j, a, others, rfl, rfl, hfirst, hothers⟩
      rcases hn i a hfirst with ⟨hfirst', hi⟩
      rcases ih (place + 1) j others hothers with ⟨hothers', hj⟩
      refine ⟨(yields_readItems_cons_iff hsteady').mpr
        ⟨i, j, a, others, rfl, rfl, hfirst', hothers'⟩, fun hnone => ?_⟩
      rw [hi hnone, hj hnone]

/-- Either key is read as the name, after as many references. -/
theorem Node.Named.yields {name : String} {key key' : Node}
    (h : Node.Named targets targets' name key key') (expected : Expected) : ∃ count step,
    Yields targets (fun refs => readKey refs expected key) count (name, step) ∧
      Yields targets' (fun refs => readKey refs expected key') count (name, step) ∧
      (targets = #[] → count = 0) := by
  cases h with
  | scalar tag? style => exact ⟨0, .key name, yields_pure _, yields_pure _, fun _ => rfl⟩
  | @reference i j tag? style hi hj =>
      have hkey {targets : Array Node} {slot : Nat}
          (hslot : targets[slot]? = some (.scalar tag? style name)) :
          Yields targets (fun refs => readKey refs expected (.alias slot)) 1 (name, .unnamed) := by
        have hnode := yields_reference targets slot
        rw [hslot] at hnode
        exact hnode.bind
          (f := fun m _ => readText expected m >>= fun name => pure (name, Step.unnamed))
          (yields_pure (name, Step.unnamed))
      refine ⟨1, .unnamed, hkey hi, hkey hj, ?_⟩
      rintro rfl
      cases hi

/-! ### Fields -/

theorem isPresent_null {n : Node} (h : n.IsNull) : isPresent n = .ok false := by
  rcases h with ⟨word, hword, rfl⟩
  simp only [nullWords, List.mem_cons, List.not_mem_nil, or_false] at hword
  rcases hword with rfl | rfl | rfl | rfl | rfl <;> rfl

/-- An optional field that is null has the value it has when it is left out. -/
theorem Schema.exists_default : ∀ {α : Type} {value : Schema α} {default? : Option α}
    (_ : value.isOptional default? = true), ∃ d, default? = some d ∧
      ∀ (targets : Array Node) (depth : Nat) {n : Node}, n.IsNull →
        Yields targets (fun refs => value.read refs depth n) 0 d
  | _, .optional inner, some none, _ => by
      refine ⟨none, rfl, fun targets depth n hn => ?_⟩
      rcases hn with ⟨word, hword, rfl⟩
      have hnull := isPresent_null ⟨word, hword, rfl⟩
      have hread (refs : References) :
          (optional inner).read refs depth (.plain word) = pure none := by
        rw [Schema.read]
        refine (pure_bind (Node.plain word) _).trans ?_
        rw [hnull]
      simp only [hread]
      exact yields_pure none

/-- The slot of a field that is absent comes to the field's own value. -/
theorem Schema.Fills.of_absent {value : Schema α} {default? : Option α}
    (h : value.isOptional default? = true) {depth count : Nat} {nodes : List Node} {a? : Option α}
    (hfills : value.Fills targets depth nodes count a?) (hnodes : Absent nodes) :
    count = 0 ∧ a?.or default? = default? := by
  rcases exists_default h with ⟨d, rfl, hnull⟩
  cases hfills with
  | missing => exact ⟨rfl, rfl⟩
  | given hread =>
      rcases hnodes with hnil | ⟨n, hn, hisNull⟩
      · cases hnil
      · cases hn
        rcases hread.unique (hnull targets depth hisNull) with ⟨rfl, rfl⟩
        exact ⟨rfl, rfl⟩

theorem Schema.exists_fills_of_absent {value : Schema α} {default? : Option α}
    (h : value.isOptional default? = true) (targets : Array Node) (depth : Nat)
    {nodes : List Node} (hnodes : Absent nodes) :
    ∃ a?, value.Fills targets depth nodes 0 a? ∧ a?.or default? = default? := by
  rcases exists_default h with ⟨d, rfl, hnull⟩
  rcases hnodes with rfl | ⟨n, rfl, hn⟩
  · exact ⟨none, .missing, rfl⟩
  · exact ⟨some d, .given (hnull targets depth hn), rfl⟩

/-- What fills the slot of a field carries over, up to the field's own value. -/
theorem Schema.Fills.carries {value : Schema α} {default? : Option α} {depth : Nat}
    (hread : ∀ {n n'}, value.Varies targets targets' n n' → Carries targets targets'
      (fun refs => value.read refs depth n) (fun refs => value.read refs depth n'))
    {nodes nodes' : List Node}
    (h : FieldAgrees (value.Varies targets targets') (value.isOptional default?) nodes nodes')
    {count : Nat} {a? : Option α} (hfills : value.Fills targets depth nodes count a?) :
    ∃ b?, value.Fills targets' depth nodes' count b? ∧ b?.or default? = a?.or default? ∧
      (targets = #[] → count = 0) := by
  cases h with
  | given h =>
      cases hfills with
      | given hyields =>
          rcases hread h _ _ hyields with ⟨hyields', hnone⟩
          exact ⟨_, .given hyields', rfl, hnone⟩
  | missing =>
      cases hfills
      exact ⟨none, .missing, rfl, fun _ => rfl⟩
  | absent hoptional hnodes hnodes' =>
      rcases hfills.of_absent hoptional hnodes with ⟨rfl, hdefault⟩
      rcases exists_fills_of_absent hoptional targets' depth hnodes' with ⟨b?, hb, hdefault'⟩
      exact ⟨b?, hb, hdefault'.trans hdefault.symm, fun _ => rfl⟩

/-- Only the fields' own values tell slots apart that close the same. -/
theorem Fields.close_congr {ρ : Type} {name : String} {default? : Option α} {value : Schema α}
    {rest : Fields ρ} {a? b? : Option α} {slots slots' : rest.Slots}
    (h : b?.or default? = a?.or default?) (hrest : rest.close slots' = rest.close slots) :
    (cons name default? value rest).close (slot b? slots') =
      (cons name default? value rest).close (slot a? slots) := by
  unfold close slot
  simp only [h, hrest]

theorem Fields.build_congr {ρ : Type} {f : Fields ρ} {build : ρ → Except String α}
    {slots slots' : f.Slots} (h : f.close slots' = f.close slots) :
    f.build build slots' = f.build build slots := by
  rw [Fields.build, h, Fields.build]

/-! ### Collections -/

mutual

/-- What is read of a collection is read of one that tells the same. -/
theorem Schema.carries_inside : ∀ {α : Type} (s : Schema α) (_ : s.WellNamed) (depth : Nat)
    {n n' : Node} (_ : s.Inside targets targets' n n'),
    Carries targets targets' (fun refs => s.read refs depth n) (fun refs => s.read refs depth n')
  | _, .text, _, _, _, _, h => h.elim
  | _, .flag, _, _, _, _, h => h.elim
  | _, .word, _, _, _, _, h => h.elim
  | _, .optional inner, hnamed, depth, n, n', h => by
      rcases inner.isDirect_of_inside h with ⟨hn, hn', hthere, hthere'⟩
      intro count a? ha
      rcases (Schema.yields_present_iff hn hthere).mp ha with ⟨a, rfl, hread⟩
      rcases inner.carries_inside hnamed depth h count a hread with ⟨hread', hnone⟩
      exact ⟨(Schema.yields_present_iff hn' hthere').mpr ⟨a, rfl, hread'⟩, hnone⟩
  | _, .list item, hnamed, depth, _, _, h => by
      cases h with
      | sequence tag? h =>
          intro count values hvalues
          rcases Schema.yields_sequence_iff.mp hvalues with ⟨d, rfl, hitems⟩
          have hcarries := h.imp fun n n' =>
            Schema.carries_of_inside (item.carries_inside hnamed d)
          rcases carries_readItems (item.steady_read d) (item.steady_read d) hcarries 0 count values
            hitems with ⟨hitems', hnone⟩
          exact ⟨Schema.yields_sequence_iff.mpr ⟨d, rfl, hitems'⟩, hnone⟩
  | _, .record name fields build, hnamed, depth, _, _, h => by
      cases h with
      | mapping tag? hkeys hkeys' h =>
          intro count a ha
          rcases Schema.yields_mapping_iff.mp ha with ⟨d, slots, rfl, hslots, hbuild⟩
          rcases fields.carries_entries hnamed.1 hnamed.2 d hkeys hkeys' h hslots with
            ⟨slots', hslots', hclose, hnone⟩
          exact ⟨Schema.yields_mapping_iff.mpr
            ⟨d, slots', rfl, hslots', (Fields.build_congr hclose).trans hbuild⟩, hnone⟩
  | _, .variant name cases, hnamed, depth, _, _, h => by
      cases h with
      | mapping tag? hkey h =>
          intro count a ha
          rcases Schema.yields_single_iff.mp ha with
            ⟨htag, d, i, j, found, rfl, rfl, hfound, hread⟩
          rcases hkey.yields .variantName with ⟨_, step, hname, hname', hi⟩
          rcases hfound.unique hname with ⟨rfl, rfl⟩
          rcases cases.carries_select hnamed d _ step h j _ hread with ⟨hread', hj⟩
          refine ⟨Schema.yields_single_iff.mpr
            ⟨htag, d, i, j, _, rfl, rfl, hname', hread'⟩, fun hnone => ?_⟩
          rw [hi hnone, hj hnone]

/-- Entries that give the same fields fill slots that close the same. -/
theorem Fields.carries_entries : ∀ {ρ : Type} (f : Fields ρ) (_ : f.names.Nodup) (_ : f.WellNamed)
    (depth : Nat) {es es' : List (Node × Node)} (_ : ScalarKeys es) (_ : ScalarKeys es')
    (_ : f.Agrees targets targets' es es') {count : Nat} {slots : f.Slots}
    (_ : f.Yields targets depth es count slots), ∃ slots',
      f.Yields targets' depth es' count slots' ∧ f.close slots' = f.close slots ∧
        (targets = #[] → count = 0)
  | _, .nil, _, _, depth, es, es', hkeys, hkeys', h, count, slots, hslots => by
      rcases hslots.unique (Fields.yields_nil depth hkeys) with ⟨rfl, rfl⟩
      exact ⟨_, Fields.yields_nil depth hkeys', rfl, fun _ => rfl⟩
  | _, .cons name default? value rest, hnames, hnamed, depth, es, es', hkeys, hkeys', h, count,
      slots, hslots => by
      rw [Fields.names, List.nodup_cons] at hnames
      rcases (Fields.yields_cons_iff hkeys hnames.1 h.1.length_le.1).mp hslots with
        ⟨m, n, a?, others, rfl, rfl, hfills, hothers⟩
      rcases hfills.carries (Schema.carries_of_inside (value.carries_inside hnamed.1 depth)) h.1
        with ⟨b?, hfills', hdefault, hm⟩
      rcases rest.carries_entries hnames.2 hnamed.2 depth hkeys hkeys' h.2 hothers with
        ⟨others', hothers', hclose, hn⟩
      refine ⟨Fields.slot b? others', Fields.yields_cons hkeys' hnames.1 hfills' hothers',
        Fields.close_congr hdefault hclose, fun hnone => ?_⟩
      rw [hm hnone, hn hnone]

theorem Cases.carries_select : ∀ {α : Type} (c : Cases α) (_ : c.WellNamed) (depth : Nat)
    (name : String) (step : Step) {n n' : Node} (_ : c.Agrees targets targets' name n n'),
    Carries targets targets' (fun refs => c.select refs depth name step n)
      (fun refs => c.select refs depth name step n')
  | _, .nil, _, _, _, _, _, _, h => h.elim
  | _, .cons case value inject rest, hnamed, depth, name, step, n, n', h => by
      rw [Cases.Agrees] at h
      by_cases hname : case = name
      · subst hname
        rw [if_pos rfl] at h
        intro count a? ha
        rcases Cases.yields_select_iff.mp ha with ⟨b, rfl, hread⟩
        rcases Schema.carries_of_inside (value.carries_inside hnamed.1 depth) h count b hread with
          ⟨hread', hnone⟩
        exact ⟨Cases.yields_select_iff.mpr ⟨b, rfl, hread'⟩, hnone⟩
      · rw [if_neg hname] at h
        simp only [Cases.select_other _ _ hname]
        exact rest.carries_select hnamed.2 depth name step h

end

/-! ### Documents -/

/-- The documents tell the same to a reader by the schema. -/
inductive Schema.VariesTree (s : Schema α) : Tree → Tree → Prop where
  | root {t t' : Tree} {n n' : Node} (h : t.root? = some n) (h' : t'.root? = some n')
    (hn : s.Varies t.targets.toArray t'.targets.toArray n n') : VariesTree s t t'
  | nothing {t t' : Tree} (h : t.root? = none) (h' : t'.root? = none) : VariesTree s t t'

/-- What the root of a document is read as under any limit. -/
def Schema.readRoot (s : Schema α) (t : Tree) (refs : References) : Reader α :=
  match t.root? with
  | some root => s.read refs depthLimit root
  | none => s.readNothing

/-- The value of a document and how many references were followed. -/
def Schema.readCounting (s : Schema α) (t : Tree) : Except Failure (α × Nat) :=
  s.readRoot t ⟨t.targets.toArray, 100 * t.size⟩ 0

theorem Schema.readTree_eq (s : Schema α) (t : Tree) :
    s.readTree t = (s.readCounting t).map (·.1) := rfl

theorem Schema.steady_readNothing (s : Schema α) : Steady targets (fun _ => s.readNothing) := by
  cases s with
  | text => exact steady_throw _
  | flag => exact steady_throw _
  | word => exact steady_throw _
  | optional inner => exact steady_pure _
  | list item => exact steady_pure _
  | record name fields build => exact fields.steady_build build _
  | variant name cases => exact steady_blame _

theorem Schema.steady_readRoot (s : Schema α) (t : Tree) :
    Steady targets (fun refs => s.readRoot t refs) := by
  unfold readRoot
  cases t.root? with
  | none => exact s.steady_readNothing
  | some root => exact s.steady_read depthLimit root

theorem Schema.VariesTree.carries {s : Schema α} {t t' : Tree} (h : s.VariesTree t t')
    (hs : s.WellNamed) : Carries t.targets.toArray t'.targets.toArray
      (fun refs => s.readRoot t refs) (fun refs => s.readRoot t' refs) := by
  unfold readRoot
  cases h with
  | root h h' hn =>
      simp only [h, h']
      exact carries_of_inside (s.carries_inside hs depthLimit) hn
  | nothing h h' =>
      simp only [h, h']
      exact carries_const _

/-- What is read of a document follows so many references under any limit. -/
theorem Schema.yields_readRoot (s : Schema α) {t : Tree} {a : α} (h : s.readTree t = .ok a) :
    ∃ followed, s.readCounting t = .ok (a, followed) ∧
      Yields t.targets.toArray (fun refs => s.readRoot t refs) followed a := by
  rw [readTree_eq] at h
  cases hrun : s.readCounting t with
  | error e => rw [hrun] at h; cases h
  | ok p =>
      rw [hrun] at h
      cases h
      rcases s.steady_readRoot t _ 0 p.1 p.2 (Nat.zero_le _) hrun with ⟨count, hcount, hyields⟩
      rw [Nat.zero_add] at hcount
      rw [← hcount] at hyields
      exact ⟨p.2, rfl, hyields⟩

/-- A variation of a document that is read as a value is read as this value too, unless the
    references that were followed are too many for its size. -/
theorem Schema.VariesTree.readTree {s : Schema α} {t t' : Tree} {a : α} (h : s.VariesTree t t')
    (hs : s.WellNamed) (hread : s.readTree t = .ok a) : ∃ followed,
      s.readCounting t = .ok (a, followed) ∧ followed ≤ 100 * t.size ∧
        (t.targets = [] → followed = 0) ∧
        s.readTree t' = if followed ≤ 100 * t'.size then .ok a else .error .tooRepetitive := by
  rcases s.yields_readRoot hread with ⟨followed, hcount, hyields⟩
  have hlimit := hyields.le_of_ok (Nat.zero_le _) hcount
  rw [Nat.zero_add] at hlimit
  rcases h.carries hs followed a hyields with ⟨hyields', hnone⟩
  have hrun : s.readCounting t' =
      if followed ≤ 100 * t'.size then .ok (a, followed) else .error .tooRepetitive := by
    have hrun := hyields' (100 * t'.size) 0 (Nat.zero_le _)
    rwa [Nat.zero_add] at hrun
  refine ⟨followed, hcount, hlimit, fun htargets => hnone (by rw [htargets]), ?_⟩
  rw [readTree_eq, hrun]
  split
  · rfl
  · rfl

end Yaml

end Manuscript
