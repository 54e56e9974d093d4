import Manuscript.Yaml.Fault
import Manuscript.Yaml.Node
import Manuscript.Yaml.Schema

/-!
# Reading Values

Reading the value of a node by the schema of its type. The entries of a
mapping are read in the order in which they are written. Unknown fields of a
record are passed over without looking at their values.

References are followed where a value is read. How often that may happen is
limited by the size of the document, so that a short text cannot stand for a
boundless value, and so is how deeply collections may be nested.

## Main definitions

* `Yaml.Reader`: Reading with a count of the references that were followed.
* `Yaml.Schema.read`: Reads the value of a node.
* `Yaml.Schema.readTree`: Reads the value of a document.
-/

namespace Manuscript

namespace Yaml

/-- What the references of a document stand for. -/
structure References where
  /-- The node of each slot. -/
  targets : Array Node
  /-- How many references may be followed. -/
  limit : Nat

/-- Reading, with a count of the references that were followed. -/
abbrev Reader (α : Type) := StateT Nat (Except Failure) α

/-- What is read one step away from a collection. -/
def Reader.under {α : Type} (step : Step) (r : Reader α) : Reader α :=
  fun followed => (r followed).mapError (·.under step)

/-- Reports a fault of the node at hand. -/
def blame {α : Type} (fault : Fault) : Reader α := throw (.located [] fault)

/-- The node itself, or the node a reference stands for. -/
def References.resolve (refs : References) : Node → Reader Node
  | .alias slot => do
    let followed ← get
    if followed < refs.limit then
      set (followed + 1)
      return refs.targets[slot]?.getD .empty
    else throw .tooRepetitive
  | n => return n

/-- How deeply collections may be nested. -/
def depthLimit : Nat := 128

/-- Enters a collection, below which the depth that is left is one less. -/
def enter : Nat → Reader Nat
  | 0 => throw .tooDeep
  | depth + 1 => return depth

/-- What a scalar is, by its tag if that is one of the format's own types, or else by its style and
    text. A tag whose type the text does not have is a fault. -/
def scalarFound (tag? : Option Tag) (style : ScalarStyle) (text : String) :
    Except Fault Found :=
  let byText := Found.value text (if style = .plain then meaning text else .text)
  let expect (phrase : String) : Option Meaning → Except Fault Found
    | some m => .ok (.value text m)
    | none => .error (.wrongValue (.value text .text) (.tagged phrase))
  match tag? with
  | none => .ok byText
  | some tag =>
    if tag = .core "bool" then expect "a boolean" ((readFlag? text).map .flag)
    else if tag = .core "int" then expect "an integer" (readWhole? text.toList)
    else if tag = .core "float" then expect "a float" (readDecimal? text.toList)
    else if tag = .core "null" then
      expect "null" (if isNullWord text then some .null else none)
    else if tag.isLocal then .ok byText
    else .ok (.value text .text)

/-- Whether a scalar can be a value of the type with the given tag: without quotes, or as literal
    text with the tag. -/
def isValueOf (core : String) (tag? : Option Tag) (style : ScalarStyle) : Bool :=
  style = .plain || (style = .literal && tag? = some (.core core))

/-- The fault of a node that is not of the expected type. -/
def mismatch (expected : Expected) : Node → Fault
  | .scalar tag? style text =>
    match scalarFound tag? style text with
    | .ok found => .wrongType found expected
    | .error fault => fault
  | .sequence .. => .wrongType .sequence expected
  | .mapping .. => .wrongType .mapping expected
  | .alias _ => .wrongType .nothing expected

/-- Whether the node is a scalar that is left out, which stands for an empty collection. -/
def isLeftOut : Node → Bool
  | .scalar _ .plain text => text.isEmpty
  | _ => false

/-- Reads the text of a scalar. -/
def readText (expected : Expected) : Node → Reader String
  | .scalar _ _ text => return text
  | n => blame (mismatch expected n)

/-- Reads a truth value. -/
def readFlag (n : Node) : Reader Bool :=
  let value? := match n with
    | .scalar tag? style text => if isValueOf "bool" tag? style then readFlag? text else none
    | _ => none
  match value? with
  | some b => return b
  | none => blame (mismatch .flag n)

/-- The whole number of 64 bits without a minus sign that a scalar stands for. -/
def naturalOf? : Node → Option Nat
  | .scalar tag? style text =>
    if isValueOf "int" tag? style then
      match readWhole? text.toList with
      | some (.natural n) => some n
      | _ => none
    else none
  | _ => none

/-- Reads a word. -/
def readWord (n : Node) : Reader UInt32 :=
  match naturalOf? n with
  | some v =>
    if v < UInt32.size then return UInt32.ofNat v
    else blame (.wrongValue (.value "" (.natural v)) .word)
  | none => blame (mismatch .word n)

/-- Whether a node of an optional value stands for a value. The tag of the null value with any
    other text is a fault, which is not placed at the node. -/
def isPresent : Node → Except Failure Bool
  | .scalar tag? .plain text =>
    match tag? with
    | none => .ok !(text.isEmpty || isNullWord text)
    | some tag =>
      if tag ≠ .core "null" then .ok true
      else if isNullWord text then .ok false
      else .error (.floating (.wrongValue (.value text .text) (.tagged "null")))
  | _ => .ok true

/-- The name of a case where a node cannot be a mapping with a single key, or the fault of the
    node. -/
def bareCase (name : String) (names : List String) (n : Node) : Fault :=
  let ofScalar (tag? : Option Tag) (style : ScalarStyle) (text : String) : Fault :=
    match scalarFound tag? style text with
    | .error fault => fault
    | .ok (.value _ .text) =>
      if names.contains text then .wrongType .bareVariant .variantValue
      else .unknownVariant text names
    | .ok found => .wrongType found (.variant name)
  match n with
  | .scalar tag? style text => ofScalar tag? style text
  | n => mismatch (.variant name) n

/-- Whether the node carries a tag that names a case. -/
def hasCaseTag : Node → Bool
  | .scalar tag? _ _ => tag?.any Tag.isNamed
  | .sequence tag? _ => tag?.any Tag.isNamed
  | .mapping tag? _ => tag?.any Tag.isNamed
  | .alias _ => false

/-- Reads a key and the step to its value. -/
def readKey (refs : References) (expected : Expected) (key : Node) : Reader (String × Step) := do
  let name ← readText expected (← refs.resolve key)
  let step := match key with
    | .scalar _ _ text => .key text
    | _ => .unnamed
  return (name, step)

/-- Reads the items of a sequence from a place on. -/
def readItems {α : Type} (read : Node → Reader α) : Nat → List Node → Reader (List α)
  | _, [] => return []
  | place, n :: rest => do
    let value ← (read n).under (.index place)
    let others ← readItems read (place + 1) rest
    return value :: others

/-- Reads the entries of a mapping into the slots of a record. -/
def readEntries {σ : Type} (refs : References) (fill : String → Step → Node → σ → Reader σ) :
    List (Node × Node) → σ → Reader σ
  | [], slots => return slots
  | (key, value) :: rest, slots => do
    let (name, step) ← readKey refs .fieldName key
    let slots ← fill name step value slots
    readEntries refs fill rest slots

/-- Builds a record from its slots. -/
def Fields.build {ρ α : Type} (f : Fields ρ) (build : ρ → Except String α) (slots : f.Slots) :
    Reader α :=
  match f.close slots with
  | .error name => blame (.missingField name)
  | .ok values =>
    match build values with
    | .error reason => throw (.floating (.refused reason))
    | .ok value => return value

mutual

/-- Reads the value of a node. Collections may still be nested to the given depth. -/
def Schema.read (refs : References) : {α : Type} → Schema α → Nat → Node → Reader α
  | _, .text, _, n => do readText .text (← refs.resolve n)
  | _, .flag, _, n => do readFlag (← refs.resolve n)
  | _, .word, _, n => do readWord (← refs.resolve n)
  | _, .optional inner, depth, n => do
    let n ← refs.resolve n
    match isPresent n with
    | .error failure => throw failure
    | .ok false => return none
    | .ok true => return some (← inner.read refs depth n)
  | _, .list item, depth, n => do
    match ← refs.resolve n with
    | .sequence _ items =>
      let depth ← enter depth
      readItems (fun n => item.read refs depth n) 0 items
    | n => if isLeftOut n then return [] else blame (mismatch .sequence n)
  | _, .record name fields build, depth, n => do
    match ← refs.resolve n with
    | .mapping _ entries =>
      let depth ← enter depth
      let fill := fun name step value slots => fields.fill refs depth name step value slots
      fields.build build (← readEntries refs fill entries fields.noSlots)
    | n =>
      if isLeftOut n then fields.build build fields.noSlots
      else blame (mismatch (.record name) n)
  | _, .variant name cases, depth, n => do
    let n ← refs.resolve n
    if hasCaseTag n then blame (.wrongType .tagged (.variant name))
    match n with
    | .mapping _ entries =>
      let depth ← enter depth
      match entries with
      | [] => blame (.wrongValue .mapping .singleKey)
      | (key, value) :: rest =>
        let (found, step) ← readKey refs .variantName key
        match ← cases.select refs depth found step value with
        | none => blame (.unknownVariant found cases.names)
        | some value => if rest.isEmpty then return value else blame (.wrongValue .mapping .singleKey)
    | .sequence .. => do
      let _ ← enter depth
      blame (bareCase name cases.names n)
    | n => blame (bareCase name cases.names n)

/-- Reads the value of a field into its slot. A name that is no field's is passed over. -/
def Fields.fill (refs : References) : {ρ : Type} → (f : Fields ρ) → Nat → String → Step → Node →
    f.Slots → Reader f.Slots
  | _, .nil, _, _, _, _, slots => return slots
  | _, @Fields.cons α _ field _ schema rest, depth, name, step, n, slots =>
    let (value?, others) : Option α × rest.Slots := slots
    if field = name then
      if value?.isSome then blame (.duplicateField name)
      else do
        let value ← (schema.read refs depth n).under step
        return (some value, others)
    else do
      let others ← rest.fill refs depth name step n others
      return (value?, others)

/-- Reads the value of the case of a name, if there is one. -/
def Cases.select (refs : References) : {α : Type} → Cases α → Nat → String → Step → Node →
    Reader (Option α)
  | _, .nil, _, _, _, _ => return none
  | _, .cons case schema inject rest, depth, name, step, n =>
    if case = name then do
      let value ← (schema.read refs depth n).under step
      return some (inject value)
    else rest.select refs depth name step n

end

/-- What a value is read as where there is no document at all. -/
def Schema.readNothing : {α : Type} → Schema α → Reader α
  | _, .text => throw .endOfText
  | _, .flag => throw .endOfText
  | _, .word => throw .endOfText
  | _, .optional _ => return none
  | _, .list _ => return []
  | _, .record _ fields build => fields.build build fields.noSlots
  | _, .variant name _ => blame (.wrongType .nothing (.variant name))

/-- Reads the value of a document. -/
def Schema.readTree {α : Type} (schema : Schema α) (t : Tree) : Except Failure α :=
  let refs : References := ⟨t.targets.toArray, 100 * t.size⟩
  let reader := match t.root? with
    | some root => schema.read refs depthLimit root
    | none => schema.readNothing
  (reader.run 0).map (·.1)

end Yaml

end Manuscript
