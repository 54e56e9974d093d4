import Manuscript.Content
import Manuscript.Number.Item

/-!
# Numbered Elements

The parts, sections, subsections, paragraphs and formal items of a numbered
document. Each holds its number and otherwise what its draft held, with
numbered content. A section also keeps the footnotes that were numbered while
its body was.

`Element` gathers the five classes, as what an identifier can stand for. An
element is described by the name of its class and its number.

## Main definitions

* `Part`, `Section`, `Subsection`, `Paragraph`, `FormalItem`: The classes.
* `Element`: Any one of them.
* `Element.describe`: The description of an element.
-/

namespace Manuscript

/-- A footnote that has its number. -/
abbrev NumberedNote := Footnote FootnoteNumber

/-- A numbered paragraph. -/
structure Paragraph where
  number : ParagraphNumber
  id? : Option String
  type? : Option String
  content : List (ParagraphItem FootnoteNumber)

/-- A numbered formal item. -/
structure FormalItem where
  number : FormalItemNumber
  title : String
  kind : String
  id? : Option String
  type? : Option String
  content : FormalContent FootnoteNumber

/-- What a numbered section or subsection holds. -/
inductive Block where
  | paragraph (paragraph : Paragraph)
  | formalItem (item : FormalItem)

/-- A numbered subsection. -/
structure Subsection where
  number : SubsectionNumber
  title : String
  id? : Option String
  type? : Option String
  content : List Block

/-- A numbered section holds blocks, or it is divided into subsections. -/
inductive SectionBody where
  | content (blocks : List Block)
  | subsections (subsections : List Subsection)

/-- A numbered section. -/
structure Section where
  number : SectionNumber
  title : String
  id? : Option String
  type? : Option String
  tableOfContents : Bool
  body : SectionBody
  /-- The footnotes of the section in number order, those of its subsections included. -/
  footnotes : List NumberedNote

namespace Section

/-- The subsections; a section that holds blocks has none. -/
def subsections (s : Section) : List Subsection :=
  match s.body with
  | .content _ => []
  | .subsections subsections => subsections

end Section

/-- A numbered part. -/
structure Part where
  number : PartNumber
  title : String
  id? : Option String
  type? : Option String
  tableOfContents : Bool
  sections : List Section

/-- An element that can carry an identifier. -/
inductive Element where
  | part (part : Part)
  | sect (sect : Section)
  | subsect (subsect : Subsection)
  | paragraph (paragraph : Paragraph)
  | formalItem (item : FormalItem)

namespace Element

/-- The class the element belongs to. -/
def elementClass : Element → ElementClass
  | part _ => .part
  | sect _ => .sect
  | subsect _ => .subsect
  | paragraph _ => .paragraph
  | formalItem _ => .formalItem

/-- The printed number of the element. -/
def number : Element → String
  | part p => p.number.text
  | sect s => s.number.text
  | subsect s => s.number.text
  | paragraph p => p.number.text
  | formalItem f => f.number.text

/-- The title of the element. Paragraphs have none. -/
def title? : Element → Option String
  | part p => some p.title
  | sect s => some s.title
  | subsect s => some s.title
  | paragraph _ => none
  | formalItem f => some f.title

/-- The identifier of the element, if it carries one. -/
def id? : Element → Option String
  | part p => p.id?
  | sect s => s.id?
  | subsect s => s.id?
  | paragraph p => p.id?
  | formalItem f => f.id?

/-- The class and the number of the element, such as `paragraph 1.3`. -/
def describe (e : Element) : String := e.elementClass.name ++ " " ++ e.number

end Element

end Manuscript
