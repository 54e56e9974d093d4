import Manuscript.Draft.Format
import Manuscript.Draft.WellFormed
import Manuscript.Yaml.Node.Reading
import Manuscript.Yaml.Schema.Reading

/-!
# Reading Drafts

A draft from YAML text. The text must not be larger than sixteen megabytes, it
has to be one well-formed document, the document has to have the format of
drafts, and the draft has to be well-formed. The first of these that fails is
reported.

## Main definitions

* `Draft.ReadError`: Why no draft could be read.
* `Draft.Document.read`: The draft of a text.
-/

namespace Manuscript

/-- Why a value cannot be read from YAML text. -/
inductive YamlError where
  /-- The text is not one well-formed document. -/
  | malformed
  | failure (failure : Yaml.Failure)
deriving DecidableEq, Repr

/-- Reads a value from YAML text. -/
def Yaml.Schema.readText {α : Type} (schema : Yaml.Schema α) (text : String) :
    Except YamlError α :=
  match Yaml.Tree.read? text with
  | none => .error .malformed
  | some tree => (schema.readTree tree).mapError .failure

namespace Draft

/-- Why no draft could be read. -/
inductive ReadError where
  /-- The text is larger than allowed; its size in bytes. -/
  | tooLarge (size : Nat)
  | yaml (error : YamlError)
  | empty (list : EmptyList)
deriving DecidableEq, Repr

/-- The greatest size of a text in bytes. -/
def sizeLimit : Nat := 16777216

/-- Refuses a size above the limit. -/
def checkSize (size : Nat) : Except ReadError Unit :=
  if sizeLimit < size then .error (.tooLarge size) else .ok ()

namespace Document

/-- The draft of a text whose size was found good. -/
def ofText (text : String) : Except ReadError Document := do
  let d ← (Format.document.readText text).mapError .yaml
  (d.check).mapError .empty
  return d

/-- The draft of a text. -/
def read (text : String) : Except ReadError Document := do
  checkSize text.utf8ByteSize
  ofText text

/-- The draft of a tree, which has no size. -/
def ofTree (tree : Yaml.Tree) : Except ReadError Document := do
  let d ← ((Format.document.readTree tree).mapError YamlError.failure).mapError .yaml
  (d.check).mapError .empty
  return d

end Document

end Draft

end Manuscript
