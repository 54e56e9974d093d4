import Manuscript.Text.Display
import Manuscript.Yaml.Scalar.Meaning

/-!
# Faults

Why the value of a node cannot be read. A fault says what was found and what
was expected. Most faults concern one node and are reported with the path from
the root to it: names of keys joined by dots, and places in sequences in
brackets.

A value may be refused only after it was read as a whole. Such a fault is not
placed at the value but at the collection around it. A few faults end the
reading of the whole document and have no place at all.

## Main definitions

* `Yaml.Found`, `Yaml.Expected`: What was found and what was expected.
* `Yaml.Fault`: Why a value cannot be read.
* `Yaml.Failure`: A fault and its place.
* `Yaml.Failure.message`: The sentence that reports a failure.
-/

namespace Manuscript

namespace Yaml

/-- What was found. -/
inductive Found where
  | value (text : String) (meaning : Meaning)
  | sequence
  | mapping
  /-- A node with a tag of its own, where the key of a mapping should tell the variant. -/
  | tagged
  /-- The name of a variant without a value. -/
  | bareVariant
  /-- No document. -/
  | nothing
deriving DecidableEq, Repr

/-- A number as faults show it. -/
def integerPhrase (digits : String) (width : String) : String :=
  "integer \x60" ++ digits ++ "\x60" ++ width

/-- A decimal number as faults show it. -/
def decimalPhrase (digits : String) : String := "floating point \x60" ++ digits ++ "\x60"

/-- The phrase for what was found. -/
def Found.phrase : Found → String
  | value s .text => "string " ++ Text.display s
  | value _ .null => "unit value"
  | value _ (.flag b) => "boolean \x60" ++ (if b then "true" else "false") ++ "\x60"
  | value _ (.natural n) => integerPhrase (toString n) ""
  | value _ (.negative n) => integerPhrase ((if n = 0 then "" else "-") ++ toString n) ""
  | value _ (.wideNatural n) => integerPhrase (toString n) " as u128"
  | value _ (.wideNegative n) => integerPhrase ("-" ++ toString n) " as i128"
  | value _ (.decimal x) => decimalPhrase x.text
  | value _ (.infinity isNegative) => decimalPhrase (if isNegative then "-inf" else "inf")
  | value _ .notANumber => decimalPhrase "NaN"
  | sequence => "sequence"
  | mapping => "map"
  | tagged => "enum"
  | bareVariant => "unit variant"
  | nothing => "Option value"

/-- What was expected. -/
inductive Expected where
  | text
  | flag
  | word
  | sequence
  | record (name : String)
  | variant (name : String)
  | fieldName
  | variantName
  | variantValue
  | singleKey
  /-- What the tag of a scalar asks for. -/
  | tagged (phrase : String)
deriving DecidableEq, Repr

/-- The phrase for what was expected. -/
def Expected.phrase : Expected → String
  | text => "a string"
  | flag => "a boolean"
  | word => "u32"
  | sequence => "a sequence"
  | record name => "struct " ++ name
  | variant name => "enum " ++ name
  | fieldName => "field identifier"
  | variantName => "variant identifier"
  | variantValue => "newtype variant"
  | singleKey => "map with a single key"
  | tagged phrase => phrase

/-- Why a value cannot be read. -/
inductive Fault where
  | wrongType (found : Found) (expected : Expected)
  | wrongValue (found : Found) (expected : Expected)
  | missingField (name : String)
  | duplicateField (name : String)
  | unknownVariant (name : String) (known : List String)
  /-- The value was read but is refused for a reason of its own. -/
  | refused (reason : String)
deriving DecidableEq, Repr

/-- A name in backquotes. -/
def backquoted (name : String) : String := "\x60" ++ name ++ "\x60"

/-- The phrase for the names that are known. -/
def knownPhrase : List String → String
  | [] => "there are no variants"
  | [a] => "expected " ++ backquoted a
  | [a, b] => "expected " ++ backquoted a ++ " or " ++ backquoted b
  | names => "expected one of " ++ ", ".intercalate (names.map backquoted)

/-- The sentence that reports a fault. -/
def Fault.message : Fault → String
  | wrongType found expected => "invalid type: " ++ found.phrase ++ ", expected " ++ expected.phrase
  | wrongValue found expected => "invalid value: " ++ found.phrase ++ ", expected " ++ expected.phrase
  | missingField name => "missing field " ++ backquoted name
  | duplicateField name => "duplicate field " ++ backquoted name
  | unknownVariant name known => "unknown variant " ++ backquoted name ++ ", " ++ knownPhrase known
  | refused reason => reason

/-- A step from a collection to what it holds. -/
inductive Step where
  | key (name : String)
  | index (place : Nat)
  /-- To the value of a key that is not written as a scalar. -/
  | unnamed
deriving DecidableEq, Repr

/-- A path with a further step. -/
def extendPath (path : String) : Step → String
  | .key name => if path.isEmpty then name else path ++ "." ++ name
  | .index place =>
    (if path.isEmpty then "." else path) ++ "[" ++ toString place ++ "]"
  | .unnamed => if path.isEmpty then "?" else path ++ ".?"

/-- The path of some steps from the root; that of no steps is empty. -/
def pathText (steps : List Step) : String := steps.foldl extendPath ""

/-- A fault and its place. -/
inductive Failure where
  /-- A fault of the node at the end of a path. -/
  | located (path : List Step) (fault : Fault)
  /-- A fault that is placed at the collection around the value. -/
  | floating (fault : Fault)
  /-- Collections are nested too deeply. -/
  | tooDeep
  /-- References are followed too often. -/
  | tooRepetitive
  /-- There is no document, and the value cannot be left out. -/
  | endOfText
deriving DecidableEq, Repr

namespace Failure

/-- The failure as seen from a collection, one step away. -/
def under (step : Step) : Failure → Failure
  | located path fault => located (step :: path) fault
  | floating fault => located [] fault
  | other => other

/-- The sentence that reports the failure, after the path if there is one. -/
def message : Failure → String
  | located [] fault => fault.message
  | located path fault => pathText path ++ ": " ++ fault.message
  | floating fault => fault.message
  | tooDeep => "recursion limit exceeded"
  | tooRepetitive => "repetition limit exceeded"
  | endOfText => "EOF while parsing a value"

end Failure

end Yaml

end Manuscript
