/-!
# Content

What paragraphs and formal items are made of: runs of text, terms, links,
images, lists, tables, verbatim text and footnotes.

Footnotes may stand inside footnotes, and inside the items of lists and the
cells of tables. They are the only content that is numbered, so the content
types carry a parameter `ν` for what a footnote holds as its number. A draft
has nothing there, `Unit`; a numbered document has a `FootnoteNumber`. Both
share one tree, so nothing but footnote numbers can tell their contents apart.

## Main definitions

* `Inline`: Content of footnotes, list items and table cells.
* `ItemList`, `ListItem`, `Footnote`: The content that holds further content.
* `Table`: Rows of cells under an optional head.
* `ParagraphItem`: Content of paragraphs.
* `FormalContent`: The content of a formal item.
-/

namespace Manuscript

/-- A word or phrase with a meaning of its own, such as a command. -/
structure Term where
  text : String
  type? : Option String
deriving DecidableEq, Repr

/-- A reference to an image, with the text that stands in for it. -/
structure Image where
  uri : String
  type? : Option String
  width? : Option UInt32
  height? : Option UInt32
  /-- The alternative text. -/
  text : String
deriving DecidableEq, Repr

/-- Text whose layout is kept. -/
structure Verbatim where
  text : String
  type? : Option String
deriving DecidableEq, Repr

/-- What a link shows. -/
inductive LinkItem where
  | text (text : String)
  | image (image : Image)
deriving DecidableEq, Repr

/-- Whether a link leads to an identifier of the same document or elsewhere. -/
inductive LinkReach where
  | inside
  | outside
deriving DecidableEq, Repr

/-- A link and what it shows. -/
structure Link where
  reach : LinkReach
  /-- An identifier, or the address of an outside resource. -/
  target : String
  content : List LinkItem
deriving DecidableEq, Repr

/-- Whether the items of a list come in an order. -/
inductive ListStyle where
  | ordered
  | unordered
deriving DecidableEq, Repr

mutual

/-- Content of footnotes, list items and table cells. -/
inductive Inline (ν : Type) where
  | text (text : String)
  | term (term : Term)
  | link (link : Link)
  | image (image : Image)
  | list (list : ItemList ν)
  | footnote (note : Footnote ν)
  | verbatim (verbatim : Verbatim)

/-- A list of items. -/
structure ItemList (ν : Type) where
  style : ListStyle
  type? : Option String
  items : List (ListItem ν)

/-- One item of a list. -/
structure ListItem (ν : Type) where
  type? : Option String
  content : List (Inline ν)

/-- A footnote, which may hold further footnotes. -/
structure Footnote (ν : Type) where
  number : ν
  content : List (Inline ν)

end

/-- The content of one table cell. -/
abbrev Cell (ν : Type) := List (Inline ν)

/-- The cells of one table row. -/
abbrev Row (ν : Type) := List (Cell ν)

/-- A table with an optional head. -/
structure Table (ν : Type) where
  summary : String
  /-- The names of the columns. -/
  head? : Option (List String)
  body : List (Row ν)

/-- Content of paragraphs. -/
inductive ParagraphItem (ν : Type) where
  | inline (content : Inline ν)
  | table (table : Table ν)
  /-- The place where all formal items of one kind are to be listed. -/
  | listing (kind : String)

/-- The single content element of a formal item. -/
inductive FormalContent (ν : Type) where
  /-- The place where all formal items of one kind are to be listed. -/
  | listing (kind : String)
  | image (image : Image)
  | list (list : ItemList ν)
  | table (table : Table ν)
  | verbatim (verbatim : Verbatim)

end Manuscript
