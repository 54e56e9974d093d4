import Manuscript.Proofs.Yaml.Nesting
import Mathlib.Data.List.Nodup

/-!
# Records and Variants that Are Read

A record is written as a mapping of its fields, and a value of a variant as a
mapping with the name of its case as the single key. Read within the limit of
nesting, both give back what was written, if the nodes in them do.

Entries are read from the front into the slots of all fields at once, so the
entry of a field goes by the slots of the fields before it. The names of the
fields differ, hence an entry fills only its own slot, and the entries of the
other fields can be read as if the first field were not there:
`Fields.Written.readEntries_cons`. With it the induction is on the fields.

A field that has a value of its own may be left out. The written fields are
listed with the left out ones, so the lists of fields and of entries go together.

How a text is put in quotes and in which style a name is written makes no
difference. `Hand` collects these choices.

## Main definitions

* `Yaml.Hand`: The styles in which names and texts are written.
* `Yaml.Hand.record`, `Yaml.Hand.single`: Records and variants as nodes.
* `Yaml.Fields.Written`: Entries are written for the values of some fields.
* `Yaml.Cases.case?`: What a value of a variant holds in a case.

## Theorems

* `Yaml.Fields.Written.read`: The slots are filled with the values.
* `Yaml.Schema.reads_record`: A record is read if its fields are.
* `Yaml.Schema.reads_variant`: A value of a variant is read if that of its case is.
-/

namespace Manuscript

namespace Yaml

/-- The quotes around a text. -/
inductive Quotes where
  | single
  | double
deriving DecidableEq, Repr

def Quotes.style : Quotes → ScalarStyle
  | single => .singleQuoted
  | double => .doubleQuoted

/-- A way to write, with a style for each name and quotes for each text. -/
structure Hand where
  keyStyle : String → ScalarStyle
  quotes : String → Quotes

namespace Hand

variable (hand : Hand)

def key (name : String) : Node := .scalar none (hand.keyStyle name) name

def text (s : String) : Node := .scalar none (hand.quotes s).style s

/-- The entries of some fields. A field without a node is left out. -/
def entries (fields : List (String × Option Node)) : List (Node × Node) :=
  fields.filterMap fun field => field.2.map fun n => (hand.key field.1, n)

/-- A mapping of the fields that are not left out. -/
def record (fields : List (String × Option Node)) : Node := .mapping none (hand.entries fields)

/-- A mapping with a single key. -/
def single (name : String) (n : Node) : Node := .mapping none [(hand.key name, n)]

theorem entries_some (name : String) (n : Node) (fields : List (String × Option Node)) :
    hand.entries ((name, some n) :: fields) = (hand.key name, n) :: hand.entries fields := rfl

theorem entries_none (name : String) (fields : List (String × Option Node)) :
    hand.entries ((name, none) :: fields) = hand.entries fields := rfl

theorem nestingOfEntries_key (name : String) (n : Node) (entries : List (Node × Node)) :
    nestingOfEntries ((hand.key name, n) :: entries) =
      max n.nesting (nestingOfEntries entries) := by
  rw [nestingOfEntries, nestingOfEntry, key, Node.nesting, Nat.zero_max]

theorem nesting_single (name : String) (n : Node) :
    (hand.single name n).nesting = n.nesting + 1 := by
  rw [single, Node.nesting, nestingOfEntries_key, nestingOfEntries, Nat.max_zero]

theorem isThere_record (fields : List (String × Option Node)) : (hand.record fields).IsThere :=
  ⟨fun _ => rfl, rfl⟩

theorem isThere_text (s : String) : (hand.text s).IsThere := by
  constructor
  · exact fun _ => rfl
  · -- Only a plain scalar can be null, and a text is in quotes of either kind.
    rw [text]
    cases hand.quotes s with
    | single => rfl
    | double => rfl

/-- Without quotes the same word would be no value. -/
example : isPresent ((⟨fun _ => .plain, fun _ => .single⟩ : Hand).text "null") = .ok true ∧
    isPresent (.plain "null") = .ok false := ⟨rfl, rfl⟩

theorem reads_text {bound : Nat} (s : String) : Schema.text.Reads bound (hand.text s) s :=
  Schema.reads_text _ s

theorem readKey_key (refs : References) (expected : Expected) (name : String) :
    readKey refs expected (hand.key name) = pure (name, .key name) := rfl

theorem readEntries_key {σ : Type} (refs : References)
    (fill : String → Step → Node → σ → Reader σ) (name : String) (n : Node)
    (entries : List (Node × Node)) (slots : σ) :
    readEntries refs fill ((hand.key name, n) :: entries) slots =
      (fill name (.key name) n slots >>= readEntries refs fill entries) := by
  rw [readEntries, readKey_key, pure_bind]

end Hand

open Reader

variable {α ρ : Type} {bound : Nat} (hand : Hand)

namespace Fields

/-- The names of the fields. -/
def names : {ρ : Type} → Fields ρ → List String
  | _, nil => []
  | _, cons name _ _ rest => name :: rest.names

section Slots

variable {name : String} {default? : Option α} {value : Schema α} {rest : Fields ρ}

/-- The slot of the first field before those of the others. -/
def slot (a? : Option α) (slots : rest.Slots) : (cons name default? value rest).Slots :=
  (a?, slots)

theorem noSlots_cons :
    (cons name default? value rest).noSlots = slot none rest.noSlots := rfl

theorem fill_self (refs : References) (depth : Nat) (step : Step) (n : Node)
    (slots : rest.Slots) :
    (cons name default? value rest).fill refs depth name step n (slot none slots) =
      ((value.read refs depth n).under step >>= fun a => pure (slot (some a) slots)) :=
  if_pos rfl

theorem fill_other {other : String} (h : name ≠ other) (refs : References) (depth : Nat)
    (step : Step) (n : Node) (a? : Option α) (slots : rest.Slots) :
    (cons name default? value rest).fill refs depth other step n (slot a? slots) =
      (rest.fill refs depth other step n slots >>= fun slots => pure (slot a? slots)) :=
  if_neg h

theorem close_slot {a? : Option α} {a : α} {slots : rest.Slots} {values : ρ}
    (ha : a?.or default? = some a) (h : rest.close slots = .ok values) :
    (cons name default? value rest).close (slot a? slots) = .ok (a, values) := by
  unfold close slot
  simp only [ha, h]
  rfl

end Slots

/-- The fields have these values, each written as the node that stands beside its name. A field
    without a node has the value it is given when it is left out. -/
inductive Written (bound : Nat) :
    {ρ : Type} → Fields ρ → List (String × Option Node) → ρ → Prop where
  | nil : Written bound .nil [] ()
  | entry {α ρ : Type} {name : String} {default? : Option α} {value : Schema α} {rest : Fields ρ}
      {n : Node} {a : α} {fields : List (String × Option Node)} {values : ρ}
      (hvalue : value.Reads bound n a) (hrest : Written bound rest fields values) :
      Written bound (.cons name default? value rest) ((name, some n) :: fields) (a, values)
  | leftOut {α ρ : Type} {name : String} {a : α} {value : Schema α} {rest : Fields ρ}
      {fields : List (String × Option Node)} {values : ρ}
      (hrest : Written bound rest fields values) :
      Written bound (.cons name (some a) value rest) ((name, none) :: fields) (a, values)

namespace Written

theorem names_eq {f : Fields ρ} {fields : List (String × Option Node)} {values : ρ}
    (h : f.Written bound fields values) : fields.map Prod.fst = f.names := by
  induction h with
  | nil => rfl
  | entry _ _ ih => exact congrArg (_ :: ·) ih
  | leftOut _ ih => exact congrArg (_ :: ·) ih

/-- A field that is given by an optional value, left out where there is none. -/
theorem optional {name : String} {value : Schema α} {rest : Fields ρ} {node : α → Node}
    {fields : List (String × Option Node)} {values : ρ}
    (hvalue : ∀ a, value.Reads bound (node a) a) (hthere : ∀ a, (node a).IsThere) (a? : Option α)
    (hrest : rest.Written bound fields values) :
    (Fields.optional name value rest).Written bound ((name, a?.map node) :: fields)
      (a?, values) := by
  cases a? with
  | none => exact leftOut hrest
  | some a => exact entry (Schema.reads_optional (hvalue a) (hthere a)) hrest

/-- Entries with other names go by the slot of the first field. -/
theorem readEntries_cons {α ρ : Type} (refs : References) (depth : Nat) {name : String}
    {default? : Option α} {value : Schema α} {rest : Fields ρ}
    {fields : List (String × Option Node)} (hnames : name ∉ fields.map Prod.fst) (a? : Option α)
    (slots : rest.Slots) :
    readEntries refs ((cons name default? value rest).fill refs depth) (hand.entries fields)
        (slot a? slots) =
      (readEntries refs (rest.fill refs depth) (hand.entries fields) slots >>=
        fun slots => pure (slot a? slots)) := by
  induction fields generalizing slots with
  | nil => rfl
  | cons field others ih =>
      rcases field with ⟨other, n?⟩
      rw [List.map_cons, List.mem_cons, not_or] at hnames
      cases n? with
      | none => exact ih hnames.2 slots
      | some n =>
          rw [Hand.entries_some, Hand.readEntries_key, Hand.readEntries_key, fill_other hnames.1,
            bind_assoc, bind_assoc]
          simp only [pure_bind]
          -- Both sides fill the same slot first, and go on with the same entries.
          exact congrArg _ (funext fun slots => ih hnames.2 slots)

/-- The entries of some fields fill all slots with their values, except that the slot of a field
    that is left out stays empty. -/
theorem read {f : Fields ρ} {fields : List (String × Option Node)} {values : ρ}
    (h : f.Written bound fields values) (hnames : f.names.Nodup) (refs : References) (depth : Nat)
    (hdepth : depth ≤ bound) : ∃ slots,
      readEntries refs (f.fill refs depth) (hand.entries fields) f.noSlots =
        fitting (nestingOfEntries (hand.entries fields)) depth slots ∧
      f.close slots = .ok values := by
  induction h with
  | nil => exact ⟨(), (fitting_zero depth ()).symm, rfl⟩
  | @entry α ρ name default? value rest n a fields values hvalue hrest ih =>
      rw [names, List.nodup_cons] at hnames
      rcases ih hnames.2 with ⟨slots, hread, hclose⟩
      have hother : name ∉ fields.map Prod.fst := hrest.names_eq ▸ hnames.1
      refine ⟨slot (some a) slots, ?_, close_slot (Option.some_or ..) hclose⟩
      -- The first entry fills the first slot, and the others go by it.
      rw [Hand.entries_some, Hand.readEntries_key, noSlots_cons, fill_self,
        hvalue refs depth hdepth, under_fitting, fitting_map, Hand.nestingOfEntries_key]
      refine fitting_bind ?_
      rw [readEntries_cons hand refs depth hother, hread]
      exact fitting_map _ _ _ _
  | @leftOut α ρ name a value rest fields values hrest ih =>
      rw [names, List.nodup_cons] at hnames
      rcases ih hnames.2 with ⟨slots, hread, hclose⟩
      have hother : name ∉ fields.map Prod.fst := hrest.names_eq ▸ hnames.1
      -- No entry fills the first slot, so it is closed with the field's own value.
      refine ⟨slot none slots, ?_, close_slot (Option.none_or ..) hclose⟩
      rw [Hand.entries_none, noSlots_cons, readEntries_cons hand refs depth hother, hread]
      exact fitting_map _ _ _ _

end Written

theorem build_eq {fields : Fields ρ} {build : ρ → Except String α} {slots : fields.Slots}
    {values : ρ} {a : α} (hclose : fields.close slots = .ok values)
    (hbuild : build values = .ok a) : fields.build build slots = pure a := by
  rw [Fields.build, hclose]
  simp only [hbuild]

end Fields

/-- What a value of a variant holds in one of the cases. -/
structure Case (α : Type) : Type 1 where
  {Held : Type}
  value : Schema Held
  inject : Held → α

namespace Cases

/-- The first case with a name. -/
def case? : {α : Type} → Cases α → String → Option (Case α)
  | _, nil, _ => none
  | _, cons name value inject rest, sought =>
    if name = sought then some ⟨value, inject⟩ else rest.case? sought

theorem select_of_case? : ∀ {α : Type} {cases : Cases α} {name : String} {c : Case α}
    (_ : cases.case? name = some c) (refs : References) (depth : Nat) (step : Step) (n : Node),
    cases.select refs depth name step n =
      ((c.value.read refs depth n).under step >>= fun b => pure (some (c.inject b)))
  | _, nil, _, _, h, _, _, _, _ => nomatch h
  | _, cons first value inject rest, name, c, h, refs, depth, step, n => by
      rw [case?] at h
      rw [select]
      by_cases hfirst : first = name
      · rw [if_pos hfirst] at h ⊢
        cases h
        rfl
      · rw [if_neg hfirst] at h ⊢
        exact select_of_case? h refs depth step n

end Cases

namespace Schema

theorem reads_record {name : String} {fields : Fields ρ} {build : ρ → Except String α}
    {written : List (String × Option Node)} {a : α} (values : ρ)
    (h : fields.Written bound written values) (hnames : fields.names.Nodup)
    (hbuild : build values = .ok a) :
    (record name fields build).Reads bound (hand.record written) a := by
  intro refs depth hdepth
  rw [Schema.read]
  refine (pure_bind _ _).trans (enter_bind fun d hd => ?_)
  -- Below the mapping there is one level less, and that is within the bound as well.
  have hbound : d ≤ bound := by omega
  rcases h.read hand hnames refs d hbound with ⟨slots, hread, hclose⟩
  have hbind := fitting_bind_pure (Fields.build_eq hclose hbuild)
  exact (congrArg (· >>= _) hread).trans (hbind _ d)

/-- The mapping around what a case holds is one more collection. -/
theorem reads_variant {β : Type} {name case : String} {cases : Cases α} {value : Schema β}
    {f : β → α} {n : Node} {b : β} (hcase : cases.case? case = some ⟨value, f⟩)
    (hvalue : value.Reads bound n b) :
    (variant name cases).Reads (bound + 1) (hand.single case n) (f b) := by
  intro refs depth hdepth
  rw [Schema.read, hand.nesting_single]
  refine (pure_bind _ _).trans (enter_bind fun d hd => ?_)
  have hselect : cases.select refs d case (.key case) n = fitting n.nesting d (some (f b)) := by
    rw [Cases.select_of_case? hcase, hvalue refs d (by omega), under_fitting]
    exact fitting_map _ _ _ _
  refine (pure_bind _ _).trans ((congrArg (· >>= _) hselect).trans ?_)
  refine fitting_bind_pure ?_ _ d
  rfl

/-- Where no collection can be entered, it does not matter which cases there are. -/
theorem reads_variant_zero {name : String} {cases : Cases α} {case : String} {n : Node} {a : α} :
    (variant name cases).Reads 0 (hand.single case n) a := by
  intro refs depth hdepth
  rw [Schema.read, hand.nesting_single]
  refine (pure_bind _ _).trans (enter_bind fun d hd => ?_)
  omega

end Schema

end Yaml

end Manuscript
