import Manuscript.Data
import Manuscript.Yaml.Scalar.Writing

/-!
# Printing YAML

Plain data as YAML text in block style. Every item and every field starts on a
line of its own. Items stand at the column of the record around them, after a
dash, and the fields of a record two columns deeper. A list or record that
holds nothing is written in brackets.

The name of a field is written before its colon if it fits on a line, and has
at most 128 bytes. Another name is marked as a key by a question mark, and its
value follows on a line of its own.

Every value ends its line, so nothing has to be known about what comes before.
A literal scalar may end in a line break of its own, which is then that of the
line.

## Main definitions

* `Yaml.print`: Plain data as YAML text.
-/

namespace Manuscript

namespace Yaml

/-- Ends the line of a text, unless the text does so itself. -/
def endLine (cs : List Char) : List Char :=
  if cs.getLast?.any isBreak then cs else cs ++ ['\n']

/-- Whether a name can stand before its colon. -/
def isShortKey (name : String) : Bool :=
  !name.toList.any isBreak && name.utf8ByteSize ≤ 128

/-- What fits into the rest of a line at a column: a value that holds no others. Further lines of
    the text start at the column. -/
def printLeaf (column : Nat) : Data → List Char
  | .null => endLine "null".toList
  | .flag b => endLine (if b then "true".toList else "false".toList)
  | .number n => endLine n.toList
  | .text s => endLine (writeScalar column s)
  | .list _ => endLine ['[', ']']
  | .record _ => endLine ['{', '}']

mutual

/-- Plain data that starts at a column, which the line has reached. -/
def printValue (column : Nat) : Data → List Char
  | .list items =>
    if items.isEmpty then printLeaf column (.list []) else printItems column [] items
  | .record fields =>
    if fields.isEmpty then printLeaf column (.record []) else printFields column [] fields
  | leaf => printLeaf column leaf

/-- The value of a field, whose name stands at a column. What holds others starts on a line of its
    own. -/
def printFieldValue (column : Nat) : Data → List Char
  | .list items =>
    if items.isEmpty then ' ' :: printLeaf column (.list [])
    else '\n' :: printItems column (indentation column) items
  | .record fields =>
    if fields.isEmpty then ' ' :: printLeaf column (.record [])
    else '\n' :: printFields (column + 2) (indentation (column + 2)) fields
  | leaf => ' ' :: printLeaf (column + 2) leaf

/-- The items of a list at a column. The first comes after `start`, the others on new lines. -/
def printItems (column : Nat) (start : List Char) : List Data → List Char
  | [] => []
  | item :: rest =>
    start ++ '-' :: ' ' :: printValue (column + 2) item ++
      printItems column (indentation column) rest

/-- The fields of a record at a column. The first comes after `start`, the others on new lines. -/
def printFields (column : Nat) (start : List Char) : List (String × Data) → List Char
  | [] => []
  | field :: rest =>
    start ++ printField column field ++ printFields column (indentation column) rest

/-- A field of a record. -/
def printField (column : Nat) : String × Data → List Char
  | (name, value) =>
    if isShortKey name then writeScalar (column + 2) name ++ ':' :: printFieldValue column value
    else
      '?' :: ' ' :: endLine (writeScalar (column + 2) name) ++ indentation column ++
        ':' :: ' ' :: printValue (column + 2) value

end

/-- Plain data as YAML text. -/
def print (d : Data) : List Char := printValue 0 d

end Yaml

end Manuscript
