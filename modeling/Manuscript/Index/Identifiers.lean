import Manuscript.Numbered.Element
import Std.Data.ExtTreeMap

/-!
# Identifiers

Which element each identifier stands for. An identifier stands for at most
one element: the first that claims it keeps it, and a later claim is refused
with a description of both elements.

Identifiers are listed in the order of their characters' code points, which is
also the order of their bytes in UTF-8.

## Main definitions

* `DuplicateIdentifier`: A second element claims an identifier.
* `Identifiers`: The elements by identifier.
* `Identifiers.define`: Lets an identifier stand for an element.
-/

namespace Manuscript

/-- An identifier is claimed twice. -/
structure DuplicateIdentifier where
  identifier : String
  /-- The description of the element that holds the identifier. -/
  holder : String
  /-- The description of the element that claims it as well. -/
  claimant : String
deriving DecidableEq, Repr

namespace DuplicateIdentifier

/-- The sentence that reports the second claim. -/
def message (e : DuplicateIdentifier) : String :=
  "Duplicate identifier '" ++ e.identifier ++ "': defined by " ++ e.claimant ++
    ", already defined by " ++ e.holder

end DuplicateIdentifier

/-- The elements by identifier. -/
structure Identifiers where
  elements : Std.ExtTreeMap String Element

namespace Identifiers

/-- No identifiers. -/
def empty : Identifiers := ⟨∅⟩

/-- The element an identifier stands for. -/
def lookup (t : Identifiers) (id : String) : Option Element := t.elements[id]?

/-- Lets `id` stand for `element`, unless it stands for an element already. -/
def define (t : Identifiers) (id : String) (element : Element) :
    Except DuplicateIdentifier Identifiers :=
  match t.lookup id with
  | some holder => .error ⟨id, holder.describe, element.describe⟩
  | none => .ok ⟨t.elements.insert id element⟩

/-- Lets an element's identifier stand for it, if the element carries one. -/
def defineIfAny (t : Identifiers) (element : Element) : Except DuplicateIdentifier Identifiers :=
  match element.id? with
  | some id => t.define id element
  | none => .ok t

/-- How many identifiers there are. -/
def count (t : Identifiers) : Nat := t.elements.size

/-- All identifiers and their elements, in the order of the identifiers. -/
def entries (t : Identifiers) : List (String × Element) := t.elements.toList

end Identifiers

end Manuscript
