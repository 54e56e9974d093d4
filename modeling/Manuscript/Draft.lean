import Manuscript.Content

/-!
# Drafts

A draft is a structured document before anything in it is numbered. It is
divided into parts, which hold sections, or directly into sections. A section
holds paragraphs and formal items, or it is divided into subsections that
hold them. A document thus carries either parts or sections, and a section
either content or subsections, which the two body types say.

Any element may carry an identifier by which it can be found.

## Main definitions

* `Draft.Document`: A draft.
* `Draft.Part`, `Draft.Section`, `Draft.Subsection`: Its divisions.
* `Draft.Block`: What a section or subsection holds.
-/

namespace Manuscript

namespace Draft

/-- A paragraph. -/
structure Paragraph where
  id? : Option String
  type? : Option String
  content : List (ParagraphItem Unit)

/-- A titled item of some kind, such as a figure or a listing. -/
structure FormalItem where
  title : String
  /-- The tag by which items are grouped; any text will do. -/
  kind : String
  id? : Option String
  type? : Option String
  content : FormalContent Unit

/-- What a section or subsection holds. -/
inductive Block where
  | paragraph (paragraph : Paragraph)
  | formalItem (item : FormalItem)

/-- A subsection. -/
structure Subsection where
  title : String
  id? : Option String
  type? : Option String
  content : List Block

/-- A section holds blocks, or it is divided into subsections. -/
inductive SectionBody where
  | content (blocks : List Block)
  | subsections (subsections : List Subsection)

/-- A section. -/
structure Section where
  title : String
  id? : Option String
  type? : Option String
  /-- Whether a table of contents is wanted for this section. -/
  tableOfContents : Bool
  body : SectionBody

/-- A part, a group of sections. -/
structure Part where
  title : String
  id? : Option String
  type? : Option String
  /-- Whether a table of contents is wanted for this part. -/
  tableOfContents : Bool
  sections : List Section

/-- A document is divided into parts throughout, or into sections throughout. -/
inductive Body where
  | parts (parts : List Part)
  | sections (sections : List Section)

/-- A structured document that is yet to be numbered. -/
structure Document where
  title : String
  /-- Whether a table of contents is wanted for the document. -/
  tableOfContents : Bool
  /-- The address of a style sheet. -/
  style? : Option String
  body : Body

end Draft

end Manuscript
