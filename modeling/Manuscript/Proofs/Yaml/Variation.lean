import Manuscript.Proofs.Yaml.Entries

/-!
# Variations of a Node

A record may be written in many ways. Its entries come in any order, further
entries under names that are no fields' are passed over, and an optional value
that is not there is left out or null. The collections within may be written
differently as well, and so may the nodes that references stand for.

Two nodes are related by what a schema looks at, all the way down at once: the
tag and the items of a sequence, and for each field of a record what stands
under its name. A scalar has to be the same. The relation is not made of single
changes, so that a reading of two related nodes can be followed along the schema.
What single changes of entries do to it is said apart.

## Main definitions

* `Yaml.Schema.Varies`: Two nodes tell the same to a reader by the schema.
* `Yaml.Fields.Agrees`: Two lists of entries give the same fields.
* `Yaml.Schema.WellNamed`: No record has two fields of one name.

## Theorems

* `Yaml.Schema.varies_record_iff`: Records are related by their entries.
* `Yaml.Fields.Agrees.permute`: Entries may come in any order.
* `Yaml.Fields.Agrees.unknown_iff`: Entries that are no field's may be there or not.
* `Yaml.Fields.Agrees.absent`: An optional field may be null or not be there.
-/

namespace Manuscript

namespace Yaml

open Reader

variable {α β : Type}

/-! ### The relation -/

/-- The same scalar, or two collections that are related. -/
inductive Node.Same (inside : Node → Node → Prop) : Node → Node → Prop where
  | scalar (tag? : Option Tag) (style : ScalarStyle) (text : String) :
    Same inside (.scalar tag? style text) (.scalar tag? style text)
  | collection {n n' : Node} (h : inside n n') : Same inside n n'

/-- The same node but for what is inside, or references to two such nodes. -/
inductive Node.Varies (targets targets' : Array Node) (inside : Node → Node → Prop) :
    Node → Node → Prop where
  | node {n n' : Node} (h : Node.Same inside n n') : Varies targets targets' inside n n'
  | reference {i j : Nat} {n n' : Node} (hi : targets[i]? = some n) (hj : targets'[j]? = some n')
    (h : Node.Same inside n n') : Varies targets targets' inside (.alias i) (.alias j)

/-- Two sequences with the same tag and related items. -/
inductive Node.InSequence (item : Node → Node → Prop) : Node → Node → Prop where
  | sequence (tag? : Option Tag) {items items' : List Node} (h : List.Forall₂ item items items') :
    InSequence item (.sequence tag? items) (.sequence tag? items')

/-- Two mappings with the same tag, with scalars as keys and with related entries. -/
inductive Node.InRecord (entries : List (Node × Node) → List (Node × Node) → Prop) :
    Node → Node → Prop where
  | mapping (tag? : Option Tag) {es es' : List (Node × Node)} (hkeys : ScalarKeys es)
    (hkeys' : ScalarKeys es') (h : entries es es') :
    InRecord entries (.mapping tag? es) (.mapping tag? es')

/-- Keys with the same text, or references to such keys. -/
inductive Node.Named (targets targets' : Array Node) (name : String) : Node → Node → Prop where
  | scalar (tag? : Option Tag) (style : ScalarStyle) :
    Named targets targets' name (.scalar tag? style name) (.scalar tag? style name)
  | reference {i j : Nat} {tag? : Option Tag} {style : ScalarStyle}
    (hi : targets[i]? = some (.scalar tag? style name))
    (hj : targets'[j]? = some (.scalar tag? style name)) :
    Named targets targets' name (.alias i) (.alias j)

/-- Two mappings with the same tag and a single key, with related values. -/
inductive Node.InVariant (targets targets' : Array Node) (value : String → Node → Node → Prop) :
    Node → Node → Prop where
  | mapping (tag? : Option Tag) {key key' n n' : Node} {name : String}
    (hkey : Node.Named targets targets' name key key') (h : value name n n') :
    InVariant targets targets' value (.mapping tag? [(key, n)]) (.mapping tag? [(key', n')])

/-- The words of plain scalars that stand for null. -/
def nullWords : List String := ["", "~", "null", "Null", "NULL"]

/-- A plain null. -/
def Node.IsNull (n : Node) : Prop := ∃ word ∈ nullWords, n = .plain word

/-- Nothing stands for the value of an optional field, or null does. -/
def Absent (nodes : List Node) : Prop := nodes = [] ∨ ∃ n, nodes = [n] ∧ n.IsNull

/-- The nodes under the name of a field tell the same. It is given once on either side, or not at
    all, or it is optional and absent. -/
inductive FieldAgrees (value : Node → Node → Prop) (isOptional : Bool) :
    List Node → List Node → Prop where
  | given {n n' : Node} (h : value n n') : FieldAgrees value isOptional [n] [n']
  | missing : FieldAgrees value isOptional [] []
  | absent {nodes nodes' : List Node} (h : isOptional = true) (hnodes : Absent nodes)
    (hnodes' : Absent nodes') : FieldAgrees value isOptional nodes nodes'

/-- Whether a field with this schema and this value of its own may be null. -/
def Schema.isOptional : {α : Type} → Schema α → Option α → Bool
  | _, .optional _, some none => true
  | _, _, _ => false

section Relation

variable (targets targets' : Array Node)

mutual

/-- The collections tell the same to a reader by the schema. -/
def Schema.Inside : {α : Type} → Schema α → Node → Node → Prop
  | _, .text => fun _ _ => False
  | _, .flag => fun _ _ => False
  | _, .word => fun _ _ => False
  | _, .optional inner => inner.Inside
  | _, .list item => Node.InSequence (Node.Varies targets targets' item.Inside)
  | _, .record _ fields _ => Node.InRecord fields.Agrees
  | _, .variant _ cases => Node.InVariant targets targets' cases.Agrees

/-- The entries give the same fields, whatever their order and whatever other entries there are. -/
def Fields.Agrees : {ρ : Type} → Fields ρ → List (Node × Node) → List (Node × Node) → Prop
  | _, .nil => fun _ _ => True
  | _, .cons name default? value rest => fun es es' =>
    FieldAgrees (Node.Varies targets targets' value.Inside) (value.isOptional default?)
      (valuesOf name es) (valuesOf name es') ∧ rest.Agrees es es'

/-- The nodes tell the same in the case of the name. -/
def Cases.Agrees : {α : Type} → Cases α → String → Node → Node → Prop
  | _, .nil => fun _ _ _ => False
  | _, .cons case value _ rest => fun name n n' =>
    if case = name then Node.Varies targets targets' value.Inside n n' else rest.Agrees name n n'

end

/-- The nodes tell the same to a reader by the schema. -/
def Schema.Varies (s : Schema α) : Node → Node → Prop :=
  Node.Varies targets targets' (s.Inside targets targets')

end Relation

mutual

/-- No two fields of a record have the same name. -/
def Schema.WellNamed : {α : Type} → Schema α → Prop
  | _, .text => True
  | _, .flag => True
  | _, .word => True
  | _, .optional inner => inner.WellNamed
  | _, .list item => item.WellNamed
  | _, .record _ fields _ => fields.names.Nodup ∧ fields.WellNamed
  | _, .variant _ cases => cases.WellNamed

def Fields.WellNamed : {ρ : Type} → Fields ρ → Prop
  | _, .nil => True
  | _, .cons _ _ value rest => value.WellNamed ∧ rest.WellNamed

def Cases.WellNamed : {α : Type} → Cases α → Prop
  | _, .nil => True
  | _, .cons _ value _ rest => value.WellNamed ∧ rest.WellNamed

end

/-! ### Changes of entries -/

theorem FieldAgrees.length_le {R : Node → Node → Prop} {isOptional : Bool}
    {nodes nodes' : List Node} (h : FieldAgrees R isOptional nodes nodes') :
    nodes.length ≤ 1 ∧ nodes'.length ≤ 1 := by
  have habsent {nodes : List Node} (h : Absent nodes) : nodes.length ≤ 1 := by
    rcases h with rfl | ⟨n, rfl, -⟩
    · exact Nat.zero_le 1
    · exact Nat.le_refl 1
  cases h with
  | given _ => exact ⟨Nat.le_refl 1, Nat.le_refl 1⟩
  | missing => exact ⟨Nat.zero_le 1, Nat.zero_le 1⟩
  | absent _ h h' => exact ⟨habsent h, habsent h'⟩

section Changes

variable {targets targets' : Array Node}

/-- Mappings tell the same to a reader of records if they have the same tag and their entries give
    the same fields. -/
theorem Schema.varies_record_iff {ρ : Type} {name : String} {fields : Fields ρ}
    {build : ρ → Except String α} {tag? tag'? : Option Tag} {es es' : List (Node × Node)} :
    (Schema.record name fields build).Varies targets targets' (.mapping tag? es)
        (.mapping tag'? es') ↔
      tag? = tag'? ∧ ScalarKeys es ∧ ScalarKeys es' ∧ fields.Agrees targets targets' es es' := by
  constructor
  · intro h
    cases h with
    | node h =>
    cases h with
    | collection h =>
    cases h with
    | mapping tag? hkeys hkeys' h => exact ⟨rfl, hkeys, hkeys', h⟩
  · rintro ⟨rfl, hkeys, hkeys', h⟩
    exact .node (.collection (.mapping tag? hkeys hkeys' h))

theorem valuesOf_unknown {names : List String} {name : String} (h : name ∉ names)
    (tag? : Option Tag) (style : ScalarStyle) (n : Node) (es : List (Node × Node)) :
    ∀ field ∈ names, valuesOf field ((.scalar tag? style name, n) :: es) = valuesOf field es := by
  intro field hfield
  refine valuesOf_other ?_ tag? style n es
  rintro rfl
  exact h hfield

theorem valuesOf_perm {name : String} {es fs : List (Node × Node)} (h : es.Perm fs)
    (hone : (valuesOf name es).length ≤ 1) : valuesOf name fs = valuesOf name es := by
  have hperm : (valuesOf name es).Perm (valuesOf name fs) := h.filterMap _
  match hvalues : valuesOf name es with
  | [] => exact List.nil_perm.mp (hvalues ▸ hperm)
  | [n] => exact (List.singleton_perm.mp (hvalues ▸ hperm)).symm
  | _ :: _ :: _ =>
      rw [hvalues] at hone
      exact absurd hone (by simp)

namespace Fields.Agrees

/-- Only what stands under the names of the fields matters. -/
theorem of_valuesOf : ∀ {ρ : Type} {f : Fields ρ} {es es' fs fs' : List (Node × Node)}
    (_ : f.Agrees targets targets' es es')
    (_ : ∀ field ∈ f.names, valuesOf field fs = valuesOf field es)
    (_ : ∀ field ∈ f.names, valuesOf field fs' = valuesOf field es'),
    f.Agrees targets targets' fs fs'
  | _, .nil, _, _, _, _, _, _, _ => trivial
  | _, .cons name default? value rest, es, es', fs, fs', h, hes, hes' => by
      rw [names, List.forall_mem_cons] at hes hes'
      refine ⟨?_, of_valuesOf h.2 hes.2 hes'.2⟩
      rw [hes.1, hes'.1]
      exact h.1

theorem length_le : ∀ {ρ : Type} {f : Fields ρ} {es es' : List (Node × Node)}
    (_ : f.Agrees targets targets' es es'), ∀ field ∈ f.names,
      (valuesOf field es).length ≤ 1 ∧ (valuesOf field es').length ≤ 1
  | _, .nil, _, _, _ => fun _ h => absurd h List.not_mem_nil
  | _, .cons _ _ _ _, _, _, h => List.forall_mem_cons.mpr ⟨h.1.length_le, length_le h.2⟩

variable {ρ : Type} {f : Fields ρ} {es es' fs fs' : List (Node × Node)}

/-- Entries may come in any order. -/
theorem permute (h : f.Agrees targets targets' es es') (hes : es.Perm fs) (hes' : es'.Perm fs') :
    f.Agrees targets targets' fs fs' :=
  h.of_valuesOf (fun field hfield => valuesOf_perm hes (h.length_le field hfield).1)
    fun field hfield => valuesOf_perm hes' (h.length_le field hfield).2

/-- Entries under names that are no fields' may be there or not. -/
theorem unknown_iff {name : String} (hname : name ∉ f.names) (tag? : Option Tag)
    (style : ScalarStyle) (n : Node) :
    f.Agrees targets targets' es ((.scalar tag? style name, n) :: es') ↔
      f.Agrees targets targets' es es' := by
  have hvalues := valuesOf_unknown hname tag? style n es'
  constructor
  · intro h
    exact h.of_valuesOf (fun _ _ => rfl) fun field hfield => (hvalues field hfield).symm
  · intro h
    exact h.of_valuesOf (fun _ _ => rfl) hvalues

end Fields.Agrees

/-- The field of the name is optional. -/
def Fields.IsOptional : {ρ : Type} → Fields ρ → String → Prop
  | _, .nil, _ => False
  | _, .cons field default? value rest, name =>
    if field = name then value.isOptional default? = true else rest.IsOptional name

/-- A field that is missing may be null on either side if it is optional. -/
theorem Fields.Agrees.absent : ∀ {ρ : Type} {f : Fields ρ} {es es' fs fs' : List (Node × Node)}
    (name : String) (_ : f.Agrees targets targets' es es') (_ : f.names.Nodup)
    (_ : f.IsOptional name) (_ : Absent (valuesOf name fs)) (_ : Absent (valuesOf name fs'))
    (_ : ∀ field ∈ f.names, field ≠ name → valuesOf field fs = valuesOf field es)
    (_ : ∀ field ∈ f.names, field ≠ name → valuesOf field fs' = valuesOf field es'),
    f.Agrees targets targets' fs fs'
  | _, .nil, _, _, _, _, _, _, _, _, _, _, _, _ => trivial
  | _, .cons field default? value rest, es, es', fs, fs', name, h, hnames, hname, hfs, hfs', hes,
      hes' => by
      rw [names, List.nodup_cons] at hnames
      rw [names, List.forall_mem_cons] at hes hes'
      rw [IsOptional] at hname
      by_cases hfield : field = name
      · subst hfield
        rw [if_pos rfl] at hname
        have hother : ∀ other ∈ rest.names, other ≠ field := by
          rintro other hmem rfl
          exact hnames.1 hmem
        exact ⟨.absent hname hfs hfs', h.2.of_valuesOf (fun other hmem =>
          hes.2 other hmem (hother other hmem)) fun other hmem =>
            hes'.2 other hmem (hother other hmem)⟩
      · rw [if_neg hfield] at hname
        refine ⟨?_, absent name h.2 hnames.2 hname hfs hfs' hes.2 hes'.2⟩
        rw [hes.1 hfield, hes'.1 hfield]
        exact h.1

end Changes

end Yaml

end Manuscript
