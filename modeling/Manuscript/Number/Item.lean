import Manuscript.Number.Heading

/-!
# Numbers of Items

Paragraphs and formal items stand directly in a section or in a subsection,
their scope. Each class counts by itself within its scope, so an item number
is a scope together with a position. Whether the scope lies in a part, and
whether it is a subsection, gives the number one of four shapes.

Two classes of items share this one form of number; the class is a parameter
of the type, so a paragraph's number is never taken for a formal item's.

Numbers of different shapes meet in one document. They are compared by part,
then section, then subsection, then position, and an absent component comes
before every present one.

## Main definitions

* `Scope`: A section or subsection that directly holds items.
* `ItemNumber`: The number of an item of one class.
* `ParagraphNumber`, `FormalItemNumber`: The two classes.
-/

namespace Manuscript

/-- A division that directly holds paragraphs and formal items. -/
inductive Scope where
  | ofSection (number : SectionNumber)
  | ofSubsection (number : SubsectionNumber)
deriving DecidableEq, Repr

namespace Scope

/-- The section that is the scope or lies around it. -/
def sectionNumber : Scope → SectionNumber
  | ofSection n => n
  | ofSubsection n => n.parent

/-- The part around the scope, if any. -/
def part? (s : Scope) : Option PartNumber := s.sectionNumber.part?

/-- The place of the subsection in its section, when the scope is a subsection. -/
def subsection? : Scope → Option Position
  | ofSection _ => none
  | ofSubsection n => some n.position

instance : Ord Scope :=
  ⟨compareLex (compareOn Scope.sectionNumber) (compareOn Scope.subsection?)⟩

/-- The components from the outermost in. -/
def components : Scope → List Nat
  | ofSection n => n.components
  | ofSubsection n => n.components

/-- The printed number of the section or subsection. -/
def text (s : Scope) : String := dotted s.components

/-- The scope the words name, looked at from the outermost in. -/
def ofWords (part? : Option UInt32) (outer : UInt32) (inner? : Option UInt32) :
    Except ZeroComponent Scope := do
  let parent ← SectionNumber.ofWords part? outer
  match ← Position.ofWordIfAny .subsect inner? with
  | none => return .ofSection parent
  | some p => return .ofSubsection (parent.subsectionAt p)

end Scope

/-- The classes of items, which are counted separately within a scope. -/
inductive ItemClass where
  | paragraph
  | formalItem
deriving DecidableEq, Repr

/-- The class of the item among all numbered elements. -/
def ItemClass.element : ItemClass → ElementClass
  | paragraph => .paragraph
  | formalItem => .formalItem

/-- The number of an item of class `c`. -/
structure ItemNumber (c : ItemClass) where
  /-- The section or subsection that directly holds the item. -/
  scope : Scope
  /-- Where the item stands among those of its class in the scope. -/
  position : Position
deriving DecidableEq, Repr

/-- The number of a paragraph. -/
abbrev ParagraphNumber := ItemNumber .paragraph

/-- The number of a formal item. -/
abbrev FormalItemNumber := ItemNumber .formalItem

namespace ItemNumber

variable {c : ItemClass}

instance : Ord (ItemNumber c) :=
  ⟨compareLex (compareOn ItemNumber.scope) (compareOn ItemNumber.position)⟩

/-- The number the words name, looked at from the outermost in. -/
def ofWords (part? : Option UInt32) (outer : UInt32) (inner? : Option UInt32) (place : UInt32) :
    Except ZeroComponent (ItemNumber c) := do
  let scope ← Scope.ofWords part? outer inner?
  let position ← Position.ofWord c.element place
  return ⟨scope, position⟩

/-- The part around the item, if any. -/
def part? (n : ItemNumber c) : Option PartNumber := n.scope.part?

/-- The components from the outermost in. -/
def components (n : ItemNumber c) : List Nat := n.scope.components ++ [n.position.val]

/-- The printed number. -/
def text (n : ItemNumber c) : String := dotted n.components

end ItemNumber

namespace Scope

/-- The number of the paragraph at `position` in this scope. -/
def paragraph (s : Scope) (position : Position) : ParagraphNumber := ⟨s, position⟩

/-- The number of the formal item at `position` in this scope. -/
def formalItem (s : Scope) (position : Position) : FormalItemNumber := ⟨s, position⟩

end Scope

/-- The number of a footnote: how many footnotes of the document were finished before it. -/
abbrev FootnoteNumber := Nat

end Manuscript
