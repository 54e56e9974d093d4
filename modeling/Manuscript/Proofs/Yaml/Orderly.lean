import Manuscript.Proofs.Yaml.Carrying

/-!
# Nodes That Vary from Themselves

A node that is read tells the same as itself, if the keys of its records are
scalars and references are to nodes that are there. Nothing else has to be
asked for, since a node of another shape is not read: no field is given twice,
a list is a sequence, and a value of a variant has a single key.

So the relation of variations holds of every document that is read, and goes on
from there with each change of entries.

## Main definitions

* `Yaml.Schema.inOrder`, `Yaml.Schema.inOrderTree`: Keys are scalars and references are to nodes
  that are there.

## Theorems

* `Yaml.Fields.length_le_of_ok`: A field is given once.
* `Yaml.Schema.same_self`: A node that is read tells the same as itself.
* `Yaml.Schema.variesTree_self`: A document that is read varies from itself.
-/

namespace Manuscript

namespace Yaml

open Reader

variable {α : Type} (targets : Array Node)

/-- The node itself or the node a reference stands for, if that is there and no reference. -/
def Node.direct? : Node → Option Node
  | .alias slot =>
    match targets[slot]? with
    | some (.alias _) => none
    | n? => n?
  | n => some n

/-- What holds of the node, or of the one it stands for. -/
def Node.holds (inside : Node → Bool) (n : Node) : Bool :=
  match n.direct? targets with
  | some m => inside m
  | none => false

mutual

/-- The keys of records are scalars, and references are to nodes that are there. -/
def Schema.inOrder : {α : Type} → Schema α → Node → Bool
  | _, .text => fun _ => true
  | _, .flag => fun _ => true
  | _, .word => fun _ => true
  | _, .optional inner => inner.inOrder
  | _, .list item => fun n =>
    match n with
    | .sequence _ items => items.all (Node.holds targets item.inOrder)
    | _ => true
  | _, .record _ fields _ => fun n =>
    match n with
    | .mapping _ entries => decide (ScalarKeys entries) && fields.inOrder entries
    | _ => true
  | _, .variant _ cases => fun n =>
    match n with
    | .mapping _ [(key, value)] =>
      match key.direct? targets with
      | some (.scalar _ _ name) => cases.inOrder name value
      | _ => false
    | _ => true

def Fields.inOrder : {ρ : Type} → Fields ρ → List (Node × Node) → Bool
  | _, .nil => fun _ => true
  | _, .cons name _ value rest => fun entries =>
    (valuesOf name entries).all (Node.holds targets value.inOrder) && rest.inOrder entries

def Cases.inOrder : {α : Type} → Cases α → String → Node → Bool
  | _, .nil => fun _ _ => true
  | _, .cons case value _ rest => fun name n =>
    if case = name then Node.holds targets value.inOrder n else rest.inOrder name n

end

variable {targets}

/-! ### Fields are given once -/

/-- Entries that are read fill the slot of the first field once at most. -/
theorem Fields.length_le_of_ok {ρ : Type} {name : String} {default? : Option α}
    {value : Schema α} {rest : Fields ρ} {refs : References} {depth : Nat}
    {entries : List (Node × Node)} (hkeys : ScalarKeys entries) (a? : Option α)
    {slots : rest.Slots} {followed : Nat} {p : (cons name default? value rest).Slots × Nat}
    (h : readEntries refs ((cons name default? value rest).fill refs depth) entries
      (slot a? slots) followed = .ok p) :
    (valuesOf name entries).length ≤ if a?.isSome then 0 else 1 := by
  induction entries generalizing a? slots followed with
  | nil => exact Nat.zero_le _
  | cons entry entries ih =>
      rcases hkeys.exists_head with ⟨⟨tag?, style, other, n, rfl⟩, hrest⟩
      rw [readEntries_scalar] at h
      by_cases hname : other = name
      · subst hname
        rw [valuesOf_self, List.length_cons]
        cases a? with
        | some a => rw [fill_twice] at h; cases h
        | none =>
            rw [fill_self, bind_assoc] at h
            simp only [pure_bind] at h
            rcases exists_of_bind_ok h with ⟨a, between, -, hok⟩
            have hnone := ih hrest (some a) hok
            simp only [Option.isSome_some, if_true] at hnone
            exact Nat.succ_le_succ hnone
      · rw [valuesOf_other hname]
        rw [fill_other (Ne.symm hname), bind_assoc] at h
        simp only [pure_bind] at h
        rcases exists_of_bind_ok h with ⟨filled, between, -, hok⟩
        exact ih hrest a? hok

theorem Fields.Yields.length_le {ρ : Type} {name : String} {default? : Option α}
    {value : Schema α} {rest : Fields ρ} {depth : Nat} {entries : List (Node × Node)} {count : Nat}
    {slots : (cons name default? value rest).Slots} (hkeys : ScalarKeys entries)
    (h : (cons name default? value rest).Yields targets depth entries count slots) :
    (valuesOf name entries).length ≤ 1 :=
  length_le_of_ok hkeys none h.ok

/-! ### Nodes of another shape -/

theorem not_yields_blame {fault : Fault} {count : Nat} {a : α}
    (h : Yields targets (fun _ => blame fault) count a) : False := by
  cases h.ok

theorem Node.IsDirect.ne_reference {slot : Nat} (h : (Node.alias slot).IsDirect) : False := by
  have hrun := congrFun (h ⟨#[], 0⟩) 0
  cases hrun

section Equations

variable {n : Node} (refs : References) (depth : Nat) (hn : n.IsDirect)

include hn

theorem Schema.read_text : Schema.text.read refs depth n = readText .text n := by
  rw [Schema.read, hn refs, pure_bind]

theorem Schema.read_flag : Schema.flag.read refs depth n = readFlag n := by
  rw [Schema.read, hn refs, pure_bind]

theorem Schema.read_word : Schema.word.read refs depth n = readWord n := by
  rw [Schema.read, hn refs, pure_bind]

end Equations

section OtherShapes

variable (refs : References) (depth : Nat) (tag? : Option Tag)

theorem Schema.read_list_mapping (item : Schema α) (entries : List (Node × Node)) :
    (Schema.list item).read refs depth (.mapping tag? entries) =
      blame (mismatch .sequence (.mapping tag? entries)) := by
  rw [Schema.read]
  exact pure_bind _ _

theorem Schema.read_record_sequence {ρ : Type} (name : String) (fields : Fields ρ)
    (build : ρ → Except String α) (items : List Node) :
    (Schema.record name fields build).read refs depth (.sequence tag? items) =
      blame (mismatch (.record name) (.sequence tag? items)) := by
  rw [Schema.read]
  exact pure_bind _ _

theorem Schema.read_variant_sequence (name : String) (cases : Cases α) (items : List Node)
    {followed : Nat} {p : α × Nat} :
    (Schema.variant name cases).read refs depth (.sequence tag? items) followed ≠ .ok p := by
  intro h
  rw [Schema.read] at h
  rcases exists_of_bind_ok h with ⟨m, between, hm, h⟩
  cases hm
  rw [hasCaseTag] at h
  cases htag : tag?.any Tag.isNamed with
  | true => rw [htag] at h; cases h
  | false =>
      rw [htag] at h
      rcases exists_of_bind_ok h with ⟨d, between, -, hfault⟩
      cases hfault

/-- Values of variants have a single key. -/
theorem Schema.exists_single {name : String} {cases : Cases α} {entries : List (Node × Node)}
    {followed : Nat} {p : α × Nat}
    (h : (Schema.variant name cases).read refs depth (.mapping tag? entries) followed = .ok p) :
    ∃ key n, entries = [(key, n)] := by
  rw [Schema.read] at h
  rcases exists_of_bind_ok h with ⟨m, between, hm, h⟩
  cases hm
  rw [hasCaseTag] at h
  cases htag : tag?.any Tag.isNamed with
  | true => rw [htag] at h; cases h
  | false =>
      rw [htag] at h
      rcases exists_of_bind_ok h with ⟨d, between, -, h⟩
      rcases entries with _ | ⟨⟨key, n⟩, rest⟩
      · cases h
      · rcases exists_of_bind_ok h with ⟨found, between, -, h⟩
        rcases exists_of_bind_ok h with ⟨a?, between, -, h⟩
        cases a? with
        | none => cases h
        | some a =>
            cases rest with
            | nil => exact ⟨key, n, rfl⟩
            | cons _ _ => cases h

end OtherShapes

/-! ### Nodes that are read -/

/-- What holds for nodes that are no references holds for all. -/
theorem Schema.varies_self_of {s : Schema α} {depth : Nat}
    (hsame : ∀ {m : Node}, m.IsDirect → s.inOrder targets m = true → ∀ {count : Nat} {a : α},
      Yields targets (fun refs => s.read refs depth m) count a →
        Node.Same (s.Inside targets targets) m m)
    {n : Node} (hn : Node.holds targets (s.inOrder targets) n = true) {count : Nat} {a : α}
    (h : Yields targets (fun refs => s.read refs depth n) count a) :
    s.Varies targets targets n n := by
  match n with
  | .scalar _ _ _ => exact .node (hsame (fun _ => rfl) hn h)
  | .sequence _ _ => exact .node (hsame (fun _ => rfl) hn h)
  | .mapping _ _ => exact .node (hsame (fun _ => rfl) hn h)
  | .alias slot =>
      rw [Node.holds, Node.direct?] at hn
      cases hslot : targets[slot]? with
      | none => rw [hslot] at hn; cases hn
      | some m =>
          rw [hslot] at hn
          have hdirect : m.IsDirect ∧ s.inOrder targets m = true := by
            match m with
            | .scalar _ _ _ => exact ⟨fun _ => rfl, hn⟩
            | .sequence _ _ => exact ⟨fun _ => rfl, hn⟩
            | .mapping _ _ => exact ⟨fun _ => rfl, hn⟩
            | .alias _ => cases hn
          rcases (yields_reference_iff hslot hdirect.1).mp h with ⟨rest, -, hrest⟩
          exact .reference hslot hslot (hsame hdirect.1 hdirect.2 hrest)

/-- Where collections are refused, only scalars are read. -/
theorem Node.IsDirect.same_self_of_scalar {inside : Node → Node → Prop} {read : Node → Reader α}
    {n : Node} (hn : n.IsDirect)
    (hsequence : ∀ tag? items, ∃ fault, read (.sequence tag? items) = blame fault)
    (hmapping : ∀ tag? entries, ∃ fault, read (.mapping tag? entries) = blame fault)
    {count : Nat} {a : α} (h : Yields targets (fun _ => read n) count a) :
    Node.Same inside n n := by
  match n with
  | .scalar tag? style written => exact .scalar tag? style written
  | .sequence tag? items =>
      rcases hsequence tag? items with ⟨fault, hread⟩
      rw [hread] at h
      exact (not_yields_blame h).elim
  | .mapping tag? entries =>
      rcases hmapping tag? entries with ⟨fault, hread⟩
      rw [hread] at h
      exact (not_yields_blame h).elim
  | .alias _ => exact hn.ne_reference.elim

theorem Schema.forall₂_varies_self {item : Schema α} {depth : Nat}
    (hself : ∀ {n : Node}, Node.holds targets (item.inOrder targets) n = true →
      ∀ {count : Nat} {a : α}, Yields targets (fun refs => item.read refs depth n) count a →
        item.Varies targets targets n n) {items : List Node}
    (hitems : items.all (Node.holds targets (item.inOrder targets)) = true) (place : Nat)
    {count : Nat} {values : List α}
    (h : Yields targets (fun refs => readItems (item.read refs depth) place items) count values) :
    List.Forall₂ (item.Varies targets targets) items items := by
  induction items generalizing place count values with
  | nil => exact .nil
  | cons n rest ih =>
      rw [List.all_cons, Bool.and_eq_true] at hitems
      rcases (yields_readItems_cons_iff (item.steady_read depth)).mp h with
        ⟨_, _, a, others, -, rfl, hread, hothers⟩
      exact .cons (hself hitems.1 hread) (ih hitems.2 (place + 1) hothers)

theorem Node.named_of_direct (key : Node) {tag? : Option Tag} {style : ScalarStyle} {name : String}
    (h : key.direct? targets = some (.scalar tag? style name)) :
    key.Named targets targets name key := by
  match key with
  | .scalar _ _ _ => cases h; exact .scalar tag? style
  | .sequence _ _ => cases h
  | .mapping _ _ => cases h
  | .alias slot =>
      have hslot : targets[slot]? = some (.scalar tag? style name) := by
        rw [Node.direct?] at h
        split at h
        · cases h
        · exact h
      exact .reference hslot hslot

theorem Schema.named_of_inOrder {name : String} {cases : Cases α} {tag? : Option Tag}
    {key n : Node} (h : (Schema.variant name cases).inOrder targets (.mapping tag? [(key, n)])) :
    ∃ found, key.Named targets targets found key ∧ cases.inOrder targets found n = true := by
  rw [inOrder] at h
  dsimp only at h
  split at h
  · next found hkey => exact ⟨found, key.named_of_direct hkey, h⟩
  · cases h

mutual

/-- A node that is read tells the same as itself. -/
theorem Schema.same_self : ∀ {α : Type} (s : Schema α) (_ : s.WellNamed) (depth : Nat) {n : Node}
    (_ : n.IsDirect) (_ : s.inOrder targets n = true) {count : Nat} {a : α}
    (_ : Yields targets (fun refs => s.read refs depth n) count a),
    Node.Same (s.Inside targets targets) n n
  | _, .text, _, depth, n, hn, _, count, a, h => by
      simp only [Schema.read_text _ _ hn] at h
      exact hn.same_self_of_scalar (fun _ _ => ⟨_, rfl⟩) (fun _ _ => ⟨_, rfl⟩) h
  | _, .flag, _, depth, n, hn, _, count, a, h => by
      simp only [Schema.read_flag _ _ hn] at h
      exact hn.same_self_of_scalar (fun _ _ => ⟨_, rfl⟩) (fun _ _ => ⟨_, rfl⟩) h
  | _, .word, _, depth, n, hn, _, count, a, h => by
      simp only [Schema.read_word _ _ hn] at h
      exact hn.same_self_of_scalar (fun _ _ => ⟨_, rfl⟩) (fun _ _ => ⟨_, rfl⟩) h
  | _, .optional inner, hnamed, depth, n, hn, horder, count, a?, h => by
      match n with
      | .scalar tag? style written => exact .scalar tag? style written
      | .sequence _ _ =>
          rcases (Schema.yields_present_iff hn rfl).mp h with ⟨a, -, hread⟩
          exact inner.same_self hnamed depth hn horder hread
      | .mapping _ _ =>
          rcases (Schema.yields_present_iff hn rfl).mp h with ⟨a, -, hread⟩
          exact inner.same_self hnamed depth hn horder hread
      | .alias _ => exact hn.ne_reference.elim
  | _, .list item, hnamed, depth, n, hn, horder, count, values, h => by
      match n with
      | .scalar tag? style written => exact .scalar tag? style written
      | .sequence tag? items =>
          rcases Schema.yields_sequence_iff.mp h with ⟨d, -, hitems⟩
          exact .collection (.sequence tag? (Schema.forall₂_varies_self
            (Schema.varies_self_of (item.same_self hnamed d)) horder 0 hitems))
      | .mapping _ _ =>
          simp only [Schema.read_list_mapping] at h
          exact (not_yields_blame h).elim
      | .alias _ => exact hn.ne_reference.elim
  | _, .record name fields build, hnamed, depth, n, hn, horder, count, a, h => by
      match n with
      | .scalar tag? style written => exact .scalar tag? style written
      | .sequence _ _ =>
          simp only [Schema.read_record_sequence] at h
          exact (not_yields_blame h).elim
      | .mapping tag? entries =>
          rcases Schema.yields_mapping_iff.mp h with ⟨d, slots, -, hslots, -⟩
          rw [Schema.inOrder, Bool.and_eq_true, decide_eq_true_eq] at horder
          exact .collection (.mapping tag? horder.1 horder.1
            (fields.agrees_self hnamed.1 hnamed.2 d horder.1 horder.2 hslots))
      | .alias _ => exact hn.ne_reference.elim
  | _, .variant name cases, hnamed, depth, n, hn, horder, count, a, h => by
      match n with
      | .scalar tag? style written => exact .scalar tag? style written
      | .sequence _ _ => exact absurd h.ok (Schema.read_variant_sequence _ _ _ _ _ _)
      | .mapping tag? entries =>
          rcases Schema.exists_single _ _ _ h.ok with ⟨key, m, rfl⟩
          rcases Schema.named_of_inOrder horder with ⟨name, hkey, horder⟩
          rcases Schema.yields_single_iff.mp h with ⟨-, d, _, _, found, -, -, hfound, hread⟩
          rcases hkey.yields .variantName with ⟨_, step, hname, -, -⟩
          rcases hfound.unique hname with ⟨-, rfl⟩
          exact .collection (.mapping tag? hkey (cases.agrees_self hnamed d horder hread))
      | .alias _ => exact hn.ne_reference.elim

theorem Fields.agrees_self : ∀ {ρ : Type} (f : Fields ρ) (_ : f.names.Nodup) (_ : f.WellNamed)
    (depth : Nat) {entries : List (Node × Node)} (_ : ScalarKeys entries)
    (_ : f.inOrder targets entries = true) {count : Nat} {slots : f.Slots}
    (_ : f.Yields targets depth entries count slots), f.Agrees targets targets entries entries
  | _, .nil, _, _, _, _, _, _, _, _, _ => trivial
  | _, .cons name default? value rest, hnames, hnamed, depth, entries, hkeys, horder, count, slots,
      h => by
      rw [Fields.names, List.nodup_cons] at hnames
      rw [Fields.inOrder, Bool.and_eq_true] at horder
      have hone := h.length_le hkeys
      rcases (Fields.yields_cons_iff hkeys hnames.1 hone).mp h with
        ⟨m, n, a?, others, rfl, rfl, hfills, hothers⟩
      refine ⟨?_, rest.agrees_self hnames.2 hnamed.2 depth hkeys horder.2 hothers⟩
      revert horder hfills
      cases valuesOf name entries with
      | nil => exact fun _ _ => .missing
      | cons n nodes =>
        intro horder hfills
        cases hfills with
        | given hread =>
            have hn := List.all_eq_true.mp horder.1 n List.mem_cons_self
            exact .given (Schema.varies_self_of (value.same_self hnamed.1 depth) hn hread)

theorem Cases.agrees_self : ∀ {α : Type} (c : Cases α) (_ : c.WellNamed) (depth : Nat)
    {name : String} {step : Step} {n : Node} (_ : c.inOrder targets name n = true) {count : Nat}
    {a : α} (_ : Yields targets (fun refs => c.select refs depth name step n) count (some a)),
    c.Agrees targets targets name n n
  | _, .nil, _, _, _, _, _, _, _, _, h => by
      cases h.ok
  | _, .cons case value inject rest, hnamed, depth, name, step, n, horder, count, a, h => by
      rw [Cases.inOrder] at horder
      rw [Cases.Agrees]
      by_cases hname : case = name
      · subst hname
        simp only [if_true] at horder ⊢
        rcases Cases.yields_select_iff.mp h with ⟨b, -, hread⟩
        exact Schema.varies_self_of (value.same_self hnamed.1 depth) horder hread
      · simp only [if_neg hname] at horder ⊢
        simp only [Cases.select_other _ _ hname] at h
        exact rest.agrees_self hnamed.2 depth horder h

end

/-! ### Documents -/

/-- The root of the document is in order, if there is one. -/
def Schema.inOrderTree (s : Schema α) (t : Tree) : Bool :=
  t.root?.all (Node.holds t.targets.toArray (s.inOrder t.targets.toArray))

/-- A document that is read varies from itself. -/
theorem Schema.variesTree_self {s : Schema α} (hs : s.WellNamed) {t : Tree}
    (horder : s.inOrderTree t = true) {a : α} (hread : s.readTree t = .ok a) :
    s.VariesTree t t := by
  rcases s.yields_readRoot hread with ⟨count, -, h⟩
  rw [inOrderTree] at horder
  unfold readRoot at h
  cases hroot : t.root? with
  | none => exact .nothing hroot hroot
  | some n =>
      rw [hroot] at horder
      simp only [hroot] at h
      exact .root hroot hroot (varies_self_of (s.same_self hs depthLimit) horder h)

end Yaml

end Manuscript
