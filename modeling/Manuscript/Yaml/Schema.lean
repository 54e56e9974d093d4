/-!
# Schemas

A schema says how values of a type are written as YAML nodes. Texts, truth
values and words are scalars, a list is a sequence, and an optional value is
left out or null where there is none.

A record is a mapping of named fields. A field may have a value for the case
that it is left out, and from the fields of a record its value is built, which
may refuse them with a reason. A variant is a mapping with a single key, which
tells the case, and its value.

Schemas are data, so that what holds of reading is proved once for all of them.

## Main definitions

* `Yaml.Schema`: The schema of a type.
* `Yaml.Fields`: The fields of a record.
* `Yaml.Cases`: The cases of a variant.
-/

namespace Manuscript

namespace Yaml

mutual

/-- How values of a type are written. -/
inductive Schema : Type → Type 1 where
  | text : Schema String
  | flag : Schema Bool
  | word : Schema UInt32
  | optional {α : Type} (inner : Schema α) : Schema (Option α)
  | list {α : Type} (item : Schema α) : Schema (List α)
  | record {ρ α : Type} (name : String) (fields : Fields ρ) (build : ρ → Except String α) :
      Schema α
  | variant {α : Type} (name : String) (cases : Cases α) : Schema α

/-- The fields of a record whose values make up a tuple. -/
inductive Fields : Type → Type 1 where
  | nil : Fields Unit
  | cons {α ρ : Type} (name : String) (default? : Option α) (value : Schema α)
      (rest : Fields ρ) : Fields (α × ρ)

/-- The cases of a variant. -/
inductive Cases : Type → Type 1 where
  | nil {α : Type} : Cases α
  | cons {α β : Type} (name : String) (value : Schema β) (inject : β → α) (rest : Cases α) :
      Cases α

end

namespace Fields

/-- A field that has to be there. -/
def required {α ρ : Type} (name : String) (value : Schema α) (rest : Fields ρ) :
    Fields (α × ρ) := cons name none value rest

/-- A field that may be left out or null. -/
def optional {α ρ : Type} (name : String) (value : Schema α) (rest : Fields ρ) :
    Fields (Option α × ρ) := cons name (some none) (.optional value) rest

/-- A field that has a value of its own when it is left out. -/
def defaulting {α ρ : Type} (name : String) (default : α) (value : Schema α) (rest : Fields ρ) :
    Fields (α × ρ) := cons name (some default) value rest

/-- The values of the fields that were read so far. -/
def Slots : {ρ : Type} → Fields ρ → Type
  | _, nil => Unit
  | _, @cons α _ _ _ _ rest => Option α × rest.Slots

/-- No field was read. -/
def noSlots : {ρ : Type} → (f : Fields ρ) → f.Slots
  | _, nil => ()
  | _, cons _ _ _ rest => (none, rest.noSlots)

/-- The values of all fields, or the name of the first that is missing. -/
def close : {ρ : Type} → (f : Fields ρ) → f.Slots → Except String ρ
  | _, nil, _ => .ok ()
  | _, @cons α _ name default? _ rest, slots =>
    let (value?, others) : Option α × rest.Slots := slots
    match value?.or default? with
    | none => .error name
    | some value => (rest.close others).map fun others => (value, others)

end Fields

namespace Cases

/-- The names of the cases. -/
def names : {α : Type} → Cases α → List String
  | _, nil => []
  | _, cons name _ _ rest => name :: rest.names

end Cases

namespace Schema

/-- A record that is built from any values of its fields. -/
def plainRecord {ρ α : Type} (name : String) (fields : Fields ρ) (build : ρ → α) : Schema α :=
  record name fields fun values => .ok (build values)

end Schema

end Yaml

end Manuscript
