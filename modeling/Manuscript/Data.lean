/-!
# Plain Data

The values that data formats write: texts, numbers, truth values, lists, and
records whose fields keep their order. A number is kept as the numeral that
writes it, so no value is lost to rounding and a numeral is written the way it
was read.

## Main definitions

* `Data`: A plain value.
* `Data.count`: A natural number as plain data.
-/

namespace Manuscript

/-- A plain value. -/
inductive Data where
  | null
  | flag (value : Bool)
  | number (numeral : String)
  | text (value : String)
  | list (items : List Data)
  | record (fields : List (String × Data))

namespace Data

/-- A natural number in decimal. -/
def count (n : Nat) : Data := .number (toString n)

/-- The field of a name with its value, or no field at all. -/
def fieldIfAny (name : String) : Option Data → List (String × Data)
  | none => []
  | some v => [(name, v)]

/-- The value of the first field of a name. -/
def field? (name : String) : Data → Option Data
  | record fields => (fields.find? fun f => f.1 = name).map (·.2)
  | _ => none

end Data

end Manuscript
