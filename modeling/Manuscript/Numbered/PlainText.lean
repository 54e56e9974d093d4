import Manuscript.Numbered.Element
import Manuscript.Text.Blank

/-!
# Plain Text

Paragraphs and footnotes as plain text. The texts of the content are written
one after the other with a space between, and then every run of blanks is
narrowed to a single space.

A footnote shows as its number in brackets, whatever it holds. A table shows
its cells only, and the place for a listing of formal items shows nothing.

## Main definitions

* `pushText`: Adds a text to what is written.
* `Inline.write`: Writes inline content.
* `Paragraph.plainText`, `Footnote.plainText`: The plain text.
-/

namespace Manuscript

/-- Adds a text, after a space unless nothing is written yet. -/
def pushText (out text : String) : String := if out.isEmpty then text else out ++ " " ++ text

/-- The marker that stands for a footnote. -/
def footnoteMarker (n : FootnoteNumber) : String := "[" ++ toString n ++ "]"

/-- Writes what a link shows. -/
def LinkItem.write (out : String) : LinkItem → String
  | text t => pushText out t
  | image i => pushText out i.text

mutual

/-- Writes a piece of inline content. -/
def Inline.write (out : String) : Inline FootnoteNumber → String
  | .text t => pushText out t
  | .term t => pushText out t.text
  | .link l => l.content.foldl LinkItem.write out
  | .image i => pushText out i.text
  | .list l => l.write out
  | .footnote n => pushText out (footnoteMarker n.number)
  | .verbatim v => pushText out v.text

/-- Writes the items of a list. -/
def ItemList.write (out : String) : ItemList FootnoteNumber → String
  | ⟨_, _, items⟩ => writeItems out items

/-- Writes list items one after the other. -/
def writeItems (out : String) : List (ListItem FootnoteNumber) → String
  | [] => out
  | item :: rest => writeItems (item.write out) rest

/-- Writes the content of a list item. -/
def ListItem.write (out : String) : ListItem FootnoteNumber → String
  | ⟨_, content⟩ => writeInlines out content

/-- Writes pieces of inline content one after the other. -/
def writeInlines (out : String) : List (Inline FootnoteNumber) → String
  | [] => out
  | c :: rest => writeInlines (c.write out) rest

end

/-- Writes the cells of a table row by row. -/
def Table.write (out : String) (t : Table FootnoteNumber) : String :=
  t.body.foldl (fun out row => row.foldl writeInlines out) out

/-- Writes a piece of a paragraph. -/
def ParagraphItem.write (out : String) : ParagraphItem FootnoteNumber → String
  | .inline c => c.write out
  | .table t => t.write out
  | .listing _ => out

/-- The paragraph as plain text. -/
def Paragraph.plainText (p : Paragraph) : String :=
  Text.normalizeSpace (p.content.foldl ParagraphItem.write "")

/-- The content of the footnote as plain text. -/
def Footnote.plainText (n : NumberedNote) : String :=
  Text.normalizeSpace (writeInlines "" n.content)

end Manuscript
