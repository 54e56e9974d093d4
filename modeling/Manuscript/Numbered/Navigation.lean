import Manuscript.Numbered.Document
import Manuscript.Number.Segment

/-!
# Navigation

Going from segment to segment of a numbered document. In a document that is
divided into sections the segments are the sections. In one that is divided
into parts they are the parts and their sections, read in this order:

    1, 1.1, 1.2, 2, 2.1, ...

The segment above a section is its part; nothing is above a part, nor above a
section that stands in no part. A number that names no segment of the document
has no neighbours.

The neighbours are found from numbers alone: the section after a section has
the next position if there is such a section, and otherwise the following part
is next.

## Main definitions

* `Segment`: A part or a section of a document.
* `Document.segment?`: The segment of a number.
* `Document.first`, `Document.next?`, `Document.previous?`, `Document.up?`:
  Where to go from a segment.
* `Document.segments`: The segments in reading order.
-/

namespace Manuscript

/-- A part or a section of a document. -/
inductive Segment where
  | ofPart (part : Part)
  | ofSection (found : Section)

namespace Segment

/-- The number of the segment. -/
def number : Segment → SegmentNumber
  | ofPart p => .ofPart p.number
  | ofSection s => .ofSection s.number

/-- The title of the segment. -/
def title : Segment → String
  | ofPart p => p.title
  | ofSection s => s.title

end Segment

namespace Document

/-- Where reading starts: part one, or section one of a document without parts. -/
def first (d : Document) : SegmentNumber :=
  if d.hasParts then .ofPart .first else .ofSection ⟨none, .first⟩

/-- The segment of a number. -/
def segment? (d : Document) : SegmentNumber → Option Segment
  | .ofPart n => (d.part? n).map .ofPart
  | .ofSection n => (d.section? n).map .ofSection

/-- The part that follows a part. -/
def followingPart? (d : Document) (n : PartNumber) : Option SegmentNumber :=
  (d.part? n.next).map fun p => .ofPart p.number

/-- The segment read after this one. -/
def next? (d : Document) (n : SegmentNumber) : Option SegmentNumber :=
  match d.segment? n with
  | none => none
  | some (.ofPart p) =>
    match p.sections.head? with
    | some s => some (.ofSection s.number)
    | none => d.followingPart? p.number
  | some (.ofSection s) =>
    if (d.section? s.number.next).isSome then some (.ofSection s.number.next)
    else s.number.part?.bind d.followingPart?

/-- The segment read before this one. -/
def previous? (d : Document) (n : SegmentNumber) : Option SegmentNumber :=
  match d.segment? n with
  | none => none
  | some (.ofPart p) => do
    let before ← d.part? (← p.number.previous?)
    match before.sections.getLast? with
    | some s => return .ofSection s.number
    | none => return .ofPart before.number
  | some (.ofSection s) =>
    match s.number.previous? with
    | some before => some (.ofSection before)
    | none => s.number.part?.map .ofPart

/-- The segment around this one, the part of a section. -/
def up? (d : Document) (n : SegmentNumber) : Option SegmentNumber :=
  match d.segment? n with
  | some (.ofSection s) => s.number.part?.map .ofPart
  | some (.ofPart _) => none
  | none => none

/-- How many parts and sections the document has. -/
def segmentCount (d : Document) : Nat := d.parts.length + d.sections.length

/-- Follows `next?` from a segment for at most so many steps. -/
def follow (d : Document) : Nat → Option SegmentNumber → List SegmentNumber
  | _, none => []
  | 0, some _ => []
  | steps + 1, some n => n :: d.follow steps (d.next? n)

/-- Every segment in reading order: from the first one, if it is there, as long as another one
    follows. No segment comes twice, so there are as many steps as segments. -/
def segments (d : Document) : List SegmentNumber :=
  d.follow d.segmentCount ((d.segment? d.first).map fun _ => d.first)

end Document

end Manuscript
