import Manuscript.Draft
import Manuscript.Proofs.Yaml.Records
import Manuscript.Proofs.Yaml.Words

/-!
# Drafts as Nodes

A draft written as a tree of nodes in the format of drafts. Records are mappings
of their fields, and a field without a value is left out. What may be one of
several things is a mapping with the name of the case as its single key. Texts
are in quotes, so that no text is taken for anything else; truth values and words
are plain.

A field that only has a value of its own when it is left out is written all the
same, with whatever value it has.

The functions take the hand that writes, which chooses the quotes and the styles
of the names.

## Main definitions

* `Inline.node`, `Table.node`: Content as a node.
* `Draft.Block.node`, `Draft.Section.node`: The elements of a draft.
* `Draft.Document.node`: A draft as a node.
-/

namespace Manuscript

open Yaml

variable (hand : Hand)

def Term.node (t : Term) : Node :=
  hand.record [("text", some (hand.text t.text)), ("type", t.type?.map hand.text)]

def Image.node (i : Image) : Node :=
  hand.record [("uri", some (hand.text i.uri)), ("type", i.type?.map hand.text),
    ("width", i.width?.map .word), ("height", i.height?.map .word),
    ("text", some (hand.text i.text))]

def Verbatim.node (v : Verbatim) : Node :=
  hand.record [("text", some (hand.text v.text)), ("type", v.type?.map hand.text)]

def LinkItem.node : LinkItem → Node
  | text s => hand.single "text" (hand.text s)
  | image i => hand.single "image" (i.node hand)

def LinkReach.caseName : LinkReach → String
  | inside => "link"
  | outside => "link_external"

def Link.node (l : Link) : Node :=
  hand.record [("target", some (hand.text l.target)),
    ("content", some (.list (l.content.map (·.node hand))))]

/-- The place for a listing of formal items of a kind. -/
def listingNode (kind : String) : Node := hand.record [("kind", some (hand.text kind))]

def ListStyle.caseName : ListStyle → String
  | ordered => "list_ordered"
  | unordered => "list_unordered"

mutual

def Inline.node : Inline Unit → Node
  | .text s => hand.single "text" (hand.text s)
  | .term t => hand.single "term" (t.node hand)
  | .link l => hand.single l.reach.caseName (l.node hand)
  | .image i => hand.single "image" (i.node hand)
  | .list l => hand.single l.style.caseName l.node
  | .footnote n => hand.single "footnote" n.node
  | .verbatim v => hand.single "verbatim" (v.node hand)

def ItemList.node : ItemList Unit → Node
  | ⟨_, type?, items⟩ =>
    hand.record [("type", type?.map hand.text), ("items", some (.list (nodesOfItems items)))]

def nodesOfItems : List (ListItem Unit) → List Node
  | [] => []
  | item :: rest => item.node :: nodesOfItems rest

def ListItem.node : ListItem Unit → Node
  | ⟨type?, content⟩ =>
    hand.record [("type", type?.map hand.text), ("content", some (.list (nodesOfInlines content)))]

/-- A footnote of a draft has nothing for its number to write. -/
def Footnote.node : Footnote Unit → Node
  | ⟨_, content⟩ => hand.record [("content", some (.list (nodesOfInlines content)))]

def nodesOfInlines : List (Inline Unit) → List Node
  | [] => []
  | c :: rest => c.node :: nodesOfInlines rest

end

def headNode (columns : List String) : Node :=
  hand.record [("columns", some (.list (columns.map hand.text)))]

def cellNode (content : Cell Unit) : Node :=
  hand.record [("content", some (.list (nodesOfInlines hand content)))]

def rowNode (cells : Row Unit) : Node :=
  hand.record [("cells", some (.list (cells.map (cellNode hand))))]

def Table.node (t : Table Unit) : Node :=
  hand.record [("summary", some (hand.text t.summary)), ("head", t.head?.map (headNode hand)),
    ("body", some (.list (t.body.map (rowNode hand))))]

def ParagraphItem.node : ParagraphItem Unit → Node
  | .inline c => c.node hand
  | .table t => hand.single "table" (t.node hand)
  | .listing kind => hand.single "formal_item_list" (listingNode hand kind)

def FormalContent.node : FormalContent Unit → Node
  | .listing kind => hand.single "formal_item_list" (listingNode hand kind)
  | .image i => hand.single "image" (i.node hand)
  | .list l => hand.single l.style.caseName (l.node hand)
  | .table t => hand.single "table" (t.node hand)
  | .verbatim v => hand.single "verbatim" (v.node hand)

namespace Draft

def Paragraph.node (p : Paragraph) : Node :=
  hand.record [("id", p.id?.map hand.text), ("type", p.type?.map hand.text),
    ("content", some (.list (p.content.map (·.node hand))))]

def FormalItem.node (item : FormalItem) : Node :=
  hand.record [("title", some (hand.text item.title)), ("kind", some (hand.text item.kind)),
    ("id", item.id?.map hand.text), ("type", item.type?.map hand.text),
    ("content", some (item.content.node hand))]

def Block.node : Block → Node
  | paragraph p => hand.single "paragraph" (p.node hand)
  | formalItem item => hand.single "formal_item" (item.node hand)

def Subsection.node (s : Subsection) : Node :=
  hand.record [("title", some (hand.text s.title)), ("id", s.id?.map hand.text),
    ("type", s.type?.map hand.text), ("content", some (.list (s.content.map (·.node hand))))]

/-- The fields of both bodies, of which the other one is left out. -/
def SectionBody.fields : SectionBody → List (String × Option Node)
  | content blocks =>
    [("content", some (.list (blocks.map (·.node hand)))), ("subsections", none)]
  | subsections subs =>
    [("content", none), ("subsections", some (.list (subs.map (·.node hand))))]

def Section.node (s : Section) : Node :=
  hand.record ([("title", some (hand.text s.title)), ("id", s.id?.map hand.text),
    ("type", s.type?.map hand.text), ("contents", some (.flag s.tableOfContents))] ++
    s.body.fields hand)

def Part.node (p : Part) : Node :=
  hand.record [("title", some (hand.text p.title)), ("id", p.id?.map hand.text),
    ("type", p.type?.map hand.text), ("contents", some (.flag p.tableOfContents)),
    ("sections", some (.list (p.sections.map (·.node hand))))]

def Body.fields : Body → List (String × Option Node)
  | parts ps => [("parts", some (.list (ps.map (·.node hand)))), ("sections", none)]
  | sections ss => [("parts", none), ("sections", some (.list (ss.map (·.node hand))))]

def Document.node (d : Document) : Node :=
  hand.record ([("title", some (hand.text d.title)),
    ("contents", some (.flag d.tableOfContents)), ("style", d.style?.map hand.text)] ++
    d.body.fields hand)

end Draft

end Manuscript
