import Manuscript.Command.Failure
import Manuscript.Numbered.Navigation
import Manuscript.Numbered.PlainText
import Manuscript.Text.Styling
import Manuscript.Text.Wrapping

/-!
# Listings

What the commands print of a document. An element is listed on a line of its
own: its number, its title, and its identifier in brackets if it carries one.

The outline is the title of the document over the lines of its parts, sections
and subsections, each indented by its depth. Formal items are listed by kind,
or for one kind alone. Footnotes are listed as plain text in lines of eighty
characters. A segment is listed with the segments that can be reached from it.

## Main definitions

* `Document.outlineListing`: The outline.
* `Document.formalItemListing`: The formal items of all kinds or of one.
* `Document.footnoteListing`: The footnotes.
* `Document.elementListing`: The element that an identifier stands for.
* `Document.neighbourListing`: A segment and its neighbours.
-/

namespace Manuscript

open Text (Style)

/-- The line of an element. -/
def elementLine (colored : Bool) (number title : String) (id? : Option String) : String :=
  let suffix := match id? with
    | some id => " " ++ Style.dim.paint colored ("[" ++ id ++ "]")
    | none => ""
  Style.cyan.paint colored number ++ " " ++ title ++ suffix ++ "\n"

namespace Section

/-- The lines of a section and its subsections, behind an indent. -/
def outlineLines (colored : Bool) (indent : String) (s : Section) : String :=
  indent ++ elementLine colored s.number.text s.title s.id? ++
    String.join (s.subsections.map fun t =>
      indent ++ "  " ++ elementLine colored t.number.text t.title t.id?)

end Section

namespace Part

/-- The lines of a part and its sections. -/
def outlineLines (colored : Bool) (p : Part) : String :=
  elementLine colored p.number.text p.title p.id? ++
    String.join (p.sections.map (·.outlineLines colored "  "))

end Part

namespace FormalItem

/-- The line of a formal item. -/
def line (colored : Bool) (f : FormalItem) : String :=
  elementLine colored f.number.text f.title f.id?

end FormalItem

/-- The characters in a line of the footnote listing. -/
def listingWidth : Nat := 80

namespace Footnote

/-- The lines of a footnote behind its number. -/
def lines (n : NumberedNote) : String :=
  let marker := (footnoteMarker n.number ++ " ").toList
  String.ofList ("\n".toList.intercalate (Text.wrap listingWidth marker n.plainText.toList)) ++ "\n"

end Footnote

namespace Document

/-- The title of the document, and the lines of its divisions. -/
def outlineListing (colored : Bool) (d : Document) : String :=
  let divisions := match d.body with
    | .parts parts => parts.map (·.outlineLines colored)
    | .sections sections => sections.map (·.outlineLines colored "")
  Style.bold.paint colored d.title ++ "\n" ++ String.join divisions

/-- The lines of the formal items: those of one kind, or those of every kind under its name. -/
def formalItemListing (colored : Bool) (d : Document) (kind? : Option String) : String :=
  let items (indent kind : String) : String :=
    String.join ((d.index.formalItems.byKind kind).map fun f => indent ++ f.line colored)
  match kind? with
  | some kind => items "" kind
  | none => String.join (d.index.formalItems.kinds.map fun kind =>
      Style.bold.paint colored kind ++ "\n" ++ items "  " kind)

/-- The lines of the footnotes. -/
def footnoteListing (d : Document) : String := String.join (d.footnotes.map Footnote.lines)

/-- The description of the element that an identifier stands for, and its title if it has one. -/
def elementListing (colored : Bool) (d : Document) (id : String) : Except Failure String :=
  match d.lookup id with
  | none => .error (.unknownIdentifier id)
  | some e =>
    let title := match e.title? with
      | some title => " " ++ title
      | none => ""
    .ok (Style.cyan.paint colored e.describe ++ title ++ "\n")

/-- The line of a neighbour under a label, which is padded to nine characters. -/
def neighbourLine (colored : Bool) (d : Document) (label : String)
    (number? : Option SegmentNumber) : String :=
  let neighbour := match number?.bind d.segment? with
    | some s => Style.cyan.paint colored s.number.text ++ " " ++ s.title
    | none => Style.dim.paint colored "-"
  "  " ++ String.ofList (label.toList.rightpad 9 ' ') ++ neighbour ++ "\n"

/-- The number of the segment that a text names, or of the first one. -/
def chooseSegment (d : Document) : Option String → Except Failure SegmentNumber
  | some text => (SegmentNumber.read text d.hasParts).mapError .segment
  | none => .ok d.first

/-- The lines of a segment and its neighbours. -/
def neighbourListing (colored : Bool) (d : Document) (segment? : Option String) :
    Except Failure String := do
  let n ← d.chooseSegment segment?
  match d.segment? n with
  | none => throw (.noSegment n)
  | some s => return Style.boldCyan.paint colored s.number.text ++ " " ++
      Style.bold.paint colored s.title ++ "\n" ++
      d.neighbourLine colored "first" (some d.first) ++
      d.neighbourLine colored "previous" (d.previous? n) ++
      d.neighbourLine colored "next" (d.next? n) ++
      d.neighbourLine colored "up" (d.up? n)

end Document

end Manuscript
