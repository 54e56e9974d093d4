import Manuscript.Draft

/-!
# Well-Formed Drafts

Most lists of a draft have to hold something: a document its parts or
sections, a part its sections, a section its blocks or subsections, a
subsection its blocks, a paragraph and a footnote its content, a list its
items and a table its rows. The content of list items, rows, cells and links
may be empty.

A draft is checked from the front, each list before what it holds, and the
first empty list is reported with what it lacks and where it stands. A list or
table is placed by what directly holds it: a formal item is named by its
title, a paragraph is not named, and everything inside footnotes, list items
and cells counts as inline content.

## Main definitions

* `EmptyList`: An empty list where one may not be empty.
* `Draft.Document.check`: The check of a whole draft.
-/

namespace Manuscript

/-- What an empty list should have held. -/
inductive Missing where
  | part
  | sect
  | subsect
  | content
  | listItem
  | tableRow
deriving DecidableEq, Repr

/-- The word by which a message names what is missing. -/
def Missing.name : Missing → String
  | part => "part"
  | sect => "section"
  | subsect => "subsection"
  | content => "content"
  | listItem => "list item"
  | tableRow => "table row"

/-- What directly holds an empty list. -/
inductive Holder where
  | document (title : String)
  | part (title : String)
  | sect (title : String)
  | subsect (title : String)
  | formalItem (title : String)
  | paragraph
  | footnote
  | inlineContent
deriving DecidableEq, Repr

/-- The phrase by which a message names the holder. -/
def Holder.phrase : Holder → String
  | document t => "document '" ++ t ++ "'"
  | part t => "part '" ++ t ++ "'"
  | sect t => "section '" ++ t ++ "'"
  | subsect t => "subsection '" ++ t ++ "'"
  | formalItem t => "formal item '" ++ t ++ "'"
  | paragraph => "paragraph"
  | footnote => "footnote"
  | inlineContent => "inline content"

/-- A list that may not be empty is empty. -/
structure EmptyList where
  missing : Missing
  holder : Holder
deriving DecidableEq, Repr

namespace EmptyList

/-- The sentence that reports the empty list. -/
def message (e : EmptyList) : String :=
  "Empty " ++ e.missing.name ++ " list in " ++ e.holder.phrase

end EmptyList

/-- Refuses an empty list. -/
def requireSome {α : Type} (missing : Missing) (holder : Holder) : List α → Except EmptyList Unit
  | [] => .error ⟨missing, holder⟩
  | _ :: _ => .ok ()

mutual

/-- Checks the lists within inline content. -/
def Inline.check {ν : Type} : Inline ν → Except EmptyList Unit
  | .text _ => .ok ()
  | .term _ => .ok ()
  | .link _ => .ok ()
  | .image _ => .ok ()
  | .list l => l.check .inlineContent
  | .footnote n => n.check
  | .verbatim _ => .ok ()

/-- Checks a list that `holder` directly holds. -/
def ItemList.check {ν : Type} (holder : Holder) : ItemList ν → Except EmptyList Unit
  | ⟨_, _, items⟩ => do
    requireSome .listItem holder items
    checkItems items

/-- Checks each item of a list. -/
def checkItems {ν : Type} : List (ListItem ν) → Except EmptyList Unit
  | [] => .ok ()
  | item :: rest => do
    item.check
    checkItems rest

/-- Checks the content of one item. -/
def ListItem.check {ν : Type} : ListItem ν → Except EmptyList Unit
  | ⟨_, content⟩ => checkInlines content

/-- Checks a footnote, whose content may not be empty. -/
def Footnote.check {ν : Type} : Footnote ν → Except EmptyList Unit
  | ⟨_, content⟩ => do
    requireSome .content .footnote content
    checkInlines content

/-- Checks each piece of inline content. -/
def checkInlines {ν : Type} : List (Inline ν) → Except EmptyList Unit
  | [] => .ok ()
  | c :: rest => do
    c.check
    checkInlines rest

end

namespace Table

/-- Checks a table that `holder` directly holds. Rows and cells may be empty. -/
def check {ν : Type} (holder : Holder) (t : Table ν) : Except EmptyList Unit := do
  requireSome .tableRow holder t.body
  t.body.forM fun row => row.forM checkInlines

end Table

/-- Checks one piece of a paragraph. Its lists and tables are held by the paragraph. -/
def ParagraphItem.check {ν : Type} : ParagraphItem ν → Except EmptyList Unit
  | .inline (.list l) => l.check .paragraph
  | .inline c => c.check
  | .table t => t.check .paragraph
  | .listing _ => .ok ()

/-- Checks the content of a formal item. -/
def FormalContent.check {ν : Type} (holder : Holder) : FormalContent ν → Except EmptyList Unit
  | .list l => l.check holder
  | .table t => t.check holder
  | .listing _ => .ok ()
  | .image _ => .ok ()
  | .verbatim _ => .ok ()

namespace Draft

namespace Block

/-- Checks a paragraph or a formal item. -/
def check : Block → Except EmptyList Unit
  | paragraph p => do
    requireSome .content .paragraph p.content
    p.content.forM ParagraphItem.check
  | formalItem f => f.content.check (.formalItem f.title)

end Block

namespace Subsection

/-- Checks a subsection and its blocks. -/
def check (s : Subsection) : Except EmptyList Unit := do
  requireSome .content (.subsect s.title) s.content
  s.content.forM Block.check

end Subsection

namespace Section

/-- Checks a section and its body. -/
def check (s : Section) : Except EmptyList Unit :=
  match s.body with
  | .content blocks => do
    requireSome .content (.sect s.title) blocks
    blocks.forM Block.check
  | .subsections subsections => do
    requireSome .subsect (.sect s.title) subsections
    subsections.forM Subsection.check

end Section

namespace Part

/-- Checks a part and its sections. -/
def check (p : Part) : Except EmptyList Unit := do
  requireSome .sect (.part p.title) p.sections
  p.sections.forM Section.check

end Part

namespace Document

/-- Checks every list of a draft, each before what it holds. -/
def check (d : Document) : Except EmptyList Unit :=
  match d.body with
  | .parts parts => do
    requireSome .part (.document d.title) parts
    parts.forM Part.check
  | .sections sections => do
    requireSome .sect (.document d.title) sections
    sections.forM Section.check

end Document

end Draft

end Manuscript
