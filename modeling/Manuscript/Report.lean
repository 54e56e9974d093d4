import Manuscript.Json.Printer
import Manuscript.Numbered.Document
import Manuscript.Numbered.PlainText
import Manuscript.Text.Lines
import Manuscript.Yaml.Printer

/-!
# Reports

A report sums up a numbered document: its divisions with their numbers, the
elements that carry identifiers, the footnotes as plain text, and the formal
items of each kind.

Divisions are reported as an outline of entries within entries. The footnotes
of a section are listed by number at the section's entry. What is not there,
such as an identifier, leaves no field in the report.

A report is written in JSON, or in YAML after a start marker and without
blanks at the ends of lines.

## Main definitions

* `Report`: A report.
* `Report.ofDocument`: The report of a document.
* `Report.data`: A report as plain data.
* `Report.json`, `Report.yaml`: A report as text.
-/

namespace Manuscript

/-- A division in the outline. -/
structure OutlineEntry where
  /-- The class of the division. -/
  element : ElementClass
  number : String
  title : String
  id? : Option String
  /-- The numbers of the footnotes in a section. -/
  footnotes : List FootnoteNumber
  /-- The divisions within this one. -/
  children : List OutlineEntry

/-- An element that carries an identifier. -/
structure IdentifierEntry where
  id : String
  element : ElementClass
  number : String
deriving DecidableEq, Repr

/-- A footnote as plain text. -/
structure FootnoteEntry where
  number : FootnoteNumber
  text : String
deriving DecidableEq, Repr

/-- A formal item in the listing of its kind. -/
structure FormalItemEntry where
  number : String
  title : String
  id? : Option String
deriving DecidableEq, Repr

/-- What is reported of a document. -/
structure Report where
  title : String
  tableOfContents : Bool
  style? : Option String
  outline : List OutlineEntry
  /-- The elements with identifiers, in the order of these. -/
  identifiers : List IdentifierEntry
  /-- The footnotes in number order. -/
  footnotes : List FootnoteEntry
  /-- The formal items of each kind in number order, in the order of the kinds. -/
  formalItems : List (String × List FormalItemEntry)

namespace OutlineEntry

/-- The entry of a subsection. -/
def ofSubsection (s : Subsection) : OutlineEntry := ⟨.subsect, s.number.text, s.title, s.id?, [], []⟩

/-- The entry of a section with its subsections. -/
def ofSection (s : Section) : OutlineEntry :=
  ⟨.sect, s.number.text, s.title, s.id?, s.footnotes.map (·.number),
    s.subsections.map ofSubsection⟩

/-- The entry of a part with its sections. -/
def ofPart (p : Part) : OutlineEntry :=
  ⟨.part, p.number.text, p.title, p.id?, [], p.sections.map ofSection⟩

end OutlineEntry

/-- The entry of a formal item. -/
def FormalItemEntry.ofFormalItem (f : FormalItem) : FormalItemEntry := ⟨f.number.text, f.title, f.id?⟩

namespace Report

/-- The outline of a document. -/
def outlineOf (d : Document) : List OutlineEntry :=
  match d.body with
  | .parts divisions => divisions.map .ofPart
  | .sections divisions => divisions.map .ofSection

/-- The report of a document. -/
def ofDocument (d : Document) : Report :=
  { title := d.title
    tableOfContents := d.tableOfContents
    style? := d.style?
    outline := outlineOf d
    identifiers := d.index.identifiers.entries.map fun (id, e) => ⟨id, e.elementClass, e.number⟩
    footnotes := d.footnotes.map fun n => ⟨n.number, n.plainText⟩
    formalItems := d.index.formalItems.kinds.map fun kind =>
      (kind, (d.index.formalItems.byKind kind).map .ofFormalItem) }

/-- A field for a list, unless the list is empty. -/
def listField (name : String) (items : List Data) : List (String × Data) :=
  if items.isEmpty then [] else [(name, .list items)]

mutual

/-- An outline entry as plain data. -/
def outlineData : OutlineEntry → Data
  | ⟨element, number, title, id?, footnotes, children⟩ =>
    .record ([("element", .text element.name), ("number", .text number), ("title", .text title)] ++
      Data.fieldIfAny "id" (id?.map .text) ++ listField "footnotes" (footnotes.map .count) ++
      listField "children" (outlineItems children))

/-- Outline entries as plain data. -/
def outlineItems : List OutlineEntry → List Data
  | [] => []
  | entry :: rest => outlineData entry :: outlineItems rest

end

/-- The entry of an identifier as plain data. -/
def identifierData (e : IdentifierEntry) : Data :=
  .record [("id", .text e.id), ("element", .text e.element.name), ("number", .text e.number)]

/-- A footnote as plain data. -/
def footnoteData (e : FootnoteEntry) : Data :=
  .record [("number", .count e.number), ("text", .text e.text)]

/-- A formal item as plain data. -/
def formalItemData (e : FormalItemEntry) : Data :=
  .record ([("number", .text e.number), ("title", .text e.title)] ++
    Data.fieldIfAny "id" (e.id?.map .text))

/-- The formal items of a kind as a field. -/
def kindField (group : String × List FormalItemEntry) : String × Data :=
  (group.1, .list (group.2.map formalItemData))

/-- A report as plain data. -/
def data (r : Report) : Data :=
  .record ([("title", .text r.title), ("contents", .flag r.tableOfContents)] ++
    Data.fieldIfAny "style" (r.style?.map .text) ++
    [("outline", .list (outlineItems r.outline)),
     ("identifiers", .list (r.identifiers.map identifierData)),
     ("footnotes", .list (r.footnotes.map footnoteData)),
     ("formal_items", .record (r.formalItems.map kindField))])

/-- A report as JSON text. -/
def json (r : Report) : String := String.ofList (Json.print 0 r.data ++ ['\n'])

/-- A report as YAML text. -/
def yaml (r : Report) : String :=
  String.ofList ("---\n".toList ++ Text.trimLines (Yaml.print r.data))

end Report

end Manuscript
