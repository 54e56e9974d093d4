import Manuscript.Draft
import Manuscript.Yaml.Schema

/-!
# The Format of Drafts

How drafts are written in YAML. Each type has a schema. Divisions, blocks and
content that hold something are records, and what may be one of several things
is a variant, such as `paragraph` or `formal_item` for a block.

A document has the field `parts` or `sections`, and a section `content` or
`subsections`. One that has both, or neither, is refused by name.

Inline content may hold inline content. Every schema that contains it is given
the schema of inline content, and the schema of inline content itself is
unfolded as often as collections may be nested.

## Main definitions

* `Draft.Format.document`: The schema of drafts.
* `Draft.Format.inline`: The schema of inline content.
* `Draft.Format.block`, `Draft.Format.sect`: The schemas of blocks and sections.
-/

namespace Manuscript

namespace Draft

namespace Format

open Yaml

/-- The schema of terms. -/
def term : Schema Term :=
  .plainRecord "Term" (.required "text" .text (.optional "type" .text .nil))
    fun (text, type?, _) => ⟨text, type?⟩

/-- The schema of images. -/
def image : Schema Image :=
  .plainRecord "Image"
    (.required "uri" .text (.optional "type" .text (.optional "width" .word
      (.optional "height" .word (.required "text" .text .nil)))))
    fun (uri, type?, width?, height?, text, _) => ⟨uri, type?, width?, height?, text⟩

/-- The schema of verbatim text. -/
def verbatim : Schema Verbatim :=
  .plainRecord "Verbatim" (.required "text" .text (.optional "type" .text .nil))
    fun (text, type?, _) => ⟨text, type?⟩

/-- The schema of what a link shows. -/
def linkItem : Schema LinkItem :=
  .variant "LinkContent" (.cons "text" .text .text (.cons "image" image .image .nil))

/-- The schema of links of one reach. -/
def linkOf (name : String) (reach : LinkReach) : Schema Link :=
  .plainRecord name (.required "target" .text (.required "content" (.list linkItem) .nil))
    fun (target, content, _) => ⟨reach, target, content⟩

/-- The schema of links within the document. -/
def link : Schema Link := linkOf "Link" .inside

/-- The schema of links to elsewhere. -/
def linkExternal : Schema Link := linkOf "LinkExternal" .outside

/-- The schema of the place for a listing of formal items, which is the kind it lists. -/
def listing : Schema String :=
  .plainRecord "FormalItemList" (.required "kind" .text .nil) fun (kind, _) => kind

/-- The schema of list items. -/
def listItem (inline : Schema (Inline Unit)) : Schema (ListItem Unit) :=
  .plainRecord "ListItem"
    (.optional "type" .text (.required "content" (.list inline) .nil))
    fun (type?, content, _) => ⟨type?, content⟩

/-- The schema of lists of one style. -/
def itemList (inline : Schema (Inline Unit)) (style : ListStyle) : Schema (ItemList Unit) :=
  .plainRecord "List"
    (.optional "type" .text (.required "items" (.list (listItem inline)) .nil))
    fun (type?, items, _) => ⟨style, type?, items⟩

/-- The schema of footnotes. -/
def footnote (inline : Schema (Inline Unit)) : Schema (Footnote Unit) :=
  .plainRecord "Footnote" (.required "content" (.list inline) .nil)
    fun (content, _) => ⟨(), content⟩

/-- The schema of inline content that holds further content by the given schema. -/
def inlineStep (inner : Schema (Inline Unit)) : Schema (Inline Unit) :=
  .variant "InlineContent"
    (.cons "text" .text .text (.cons "term" term .term (.cons "link" link .link
      (.cons "link_external" linkExternal .link (.cons "image" image .image
      (.cons "list_ordered" (itemList inner .ordered) .list
      (.cons "list_unordered" (itemList inner .unordered) .list
      (.cons "footnote" (footnote inner) .footnote
      (.cons "verbatim" verbatim .verbatim .nil)))))))))

/-- The schema of inline content that is nested at most so deeply. -/
def inlineTo : Nat → Schema (Inline Unit)
  | 0 => .variant "InlineContent" .nil
  | depth + 1 => inlineStep (inlineTo depth)

/-- The schema of inline content. No document nests collections more deeply. -/
def inline : Schema (Inline Unit) := inlineTo 128

/-- The schema of table heads. -/
def tableHead : Schema (List String) :=
  .plainRecord "TableHead" (.required "columns" (.list .text) .nil) fun (columns, _) => columns

/-- The schema of table cells. -/
def cell : Schema (Cell Unit) :=
  .plainRecord "TableCell" (.defaulting "content" [] (.list inline) .nil)
    fun (content, _) => content

/-- The schema of table rows. -/
def row : Schema (Row Unit) :=
  .plainRecord "TableRow" (.required "cells" (.list cell) .nil) fun (cells, _) => cells

/-- The schema of tables. -/
def table : Schema (Table Unit) :=
  .plainRecord "Table"
    (.required "summary" .text (.optional "head" tableHead (.required "body" (.list row) .nil)))
    fun (summary, head?, body, _) => ⟨summary, head?, body⟩

/-- The schema of what paragraphs hold. -/
def paragraphItem : Schema (ParagraphItem Unit) :=
  .variant "ParagraphContent"
    (.cons "text" .text (.inline ∘ .text) (.cons "term" term (.inline ∘ .term)
      (.cons "link" link (.inline ∘ .link)
      (.cons "link_external" linkExternal (.inline ∘ .link)
      (.cons "image" image (.inline ∘ .image)
      (.cons "list_ordered" (itemList inline .ordered) (.inline ∘ .list)
      (.cons "list_unordered" (itemList inline .unordered) (.inline ∘ .list)
      (.cons "table" table .table
      (.cons "footnote" (footnote inline) (.inline ∘ .footnote)
      (.cons "verbatim" verbatim (.inline ∘ .verbatim)
      (.cons "formal_item_list" listing .listing .nil)))))))))))

/-- The schema of what formal items hold. -/
def formalContent : Schema (FormalContent Unit) :=
  .variant "FormalItemContent"
    (.cons "formal_item_list" listing .listing (.cons "image" image .image
      (.cons "list_ordered" (itemList inline .ordered) .list
      (.cons "list_unordered" (itemList inline .unordered) .list
      (.cons "table" table .table (.cons "verbatim" verbatim .verbatim .nil))))))

/-- The schema of paragraphs. -/
def paragraph : Schema Paragraph :=
  .plainRecord "Paragraph"
    (.optional "id" .text (.optional "type" .text
      (.required "content" (.list paragraphItem) .nil)))
    fun (id?, type?, content, _) => ⟨id?, type?, content⟩

/-- The schema of formal items. -/
def formalItem : Schema FormalItem :=
  .plainRecord "FormalItem"
    (.required "title" .text (.required "kind" .text (.optional "id" .text
      (.optional "type" .text (.required "content" formalContent .nil)))))
    fun (title, kind, id?, type?, content, _) => ⟨title, kind, id?, type?, content⟩

/-- The schema of blocks. -/
def block : Schema Block :=
  .variant "BlockContent"
    (.cons "paragraph" paragraph .paragraph (.cons "formal_item" formalItem .formalItem .nil))

/-- The schema of subsections. -/
def subsect : Schema Subsection :=
  .plainRecord "Subsection"
    (.required "title" .text (.optional "id" .text (.optional "type" .text
      (.required "content" (.list block) .nil))))
    fun (title, id?, type?, content, _) => ⟨title, id?, type?, content⟩

/-- The one of two bodies that is there. An element with both bodies, or with neither, is refused
    with the names of both. -/
def oneBody {α : Type} (element title first second : String) :
    Option α → Option α → Except String α
  | some body, none => .ok body
  | none, some body => .ok body
  | some _, some _ =>
    .error (element ++ " '" ++ title ++ "' has both '" ++ first ++ "' and '" ++ second ++ "'")
  | none, none =>
    .error (element ++ " '" ++ title ++ "' has neither '" ++ first ++ "' nor '" ++ second ++ "'")

/-- The schema of sections. -/
def sect : Schema Section :=
  .record "SectionFields"
    (.required "title" .text (.optional "id" .text (.optional "type" .text
      (.defaulting "contents" false .flag (.optional "content" (.list block)
      (.optional "subsections" (.list subsect) .nil))))))
    fun (title, id?, type?, tableOfContents, content?, subsections?, _) =>
      (oneBody "section" title "content" "subsections"
        (content?.map .content) (subsections?.map .subsections)).map fun body =>
        ⟨title, id?, type?, tableOfContents, body⟩

/-- The schema of parts. -/
def part : Schema Part :=
  .plainRecord "Part"
    (.required "title" .text (.optional "id" .text (.optional "type" .text
      (.defaulting "contents" false .flag (.required "sections" (.list sect) .nil)))))
    fun (title, id?, type?, tableOfContents, sections, _) =>
      ⟨title, id?, type?, tableOfContents, sections⟩

/-- The schema of drafts. -/
def document : Schema Document :=
  .record "DocumentFields"
    (.required "title" .text (.defaulting "contents" false .flag (.optional "style" .text
      (.optional "parts" (.list part) (.optional "sections" (.list sect) .nil)))))
    fun (title, tableOfContents, style?, parts?, sections?, _) =>
      (oneBody "document" title "parts" "sections"
        (parts?.map .parts) (sections?.map .sections)).map fun body =>
        ⟨title, tableOfContents, style?, body⟩

end Format

end Draft

end Manuscript
