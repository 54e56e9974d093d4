import Manuscript.Proofs.Navigation.ReadingOrder
import Manuscript.Proofs.Numbering.Gathering

/-!
# Reading Order of a Draft

The reading order can be told from a draft: it depends on how many parts there
are and how many sections are in each of them, and on nothing they hold. What
numbering builds stands in a row, so navigation through a numbered draft takes
exactly that order.

The lists of parts and of sections have to be shorter than the limit of
positions. Lists of other elements may have any length.

## Main definitions

* `Draft.Document.readingOrder`: The numbers of the places of segments, in order.
* `Draft.Document.SegmentsBelowLimit`: Lists of parts and of sections are shorter than the limit.

## Theorems

* `Draft.Body.readingOrder_numberFrom`: Numbering keeps the reading order.
* `Draft.Body.numberFrom_inRow`: What numbering builds stands in a row.
* `Draft.Document.enumerate_readInOrder`: Navigation takes the reading order of the draft.
-/

namespace Manuscript

namespace Draft

/-! ### Places of segments -/

/-- The numbers of sections by place. -/
def sectionsInOrder (part? : Option PartNumber) (divisions : List Section) : List SegmentNumber :=
  divisions.mapIdx fun i _ => .ofSection ⟨part?, .ofIndex i⟩

/-- The number of a part and those of its sections, by place. -/
def Part.segmentsAt (i : Nat) (p : Part) : List SegmentNumber :=
  .ofPart ⟨.ofIndex i⟩ :: sectionsInOrder (some ⟨.ofIndex i⟩) p.sections

def Body.readingOrder : Body → List SegmentNumber
  | .parts divisions => (divisions.mapIdx Part.segmentsAt).flatten
  | .sections divisions => sectionsInOrder none divisions

def Document.readingOrder (d : Document) : List SegmentNumber := d.body.readingOrder

/-! ### Drafts below the limit -/

/-- Lists of parts and of sections are shorter than the limit. -/
def Body.SegmentsBelowLimit : Body → Prop
  | .parts divisions =>
    divisions.length < Position.limit ∧ ∀ p ∈ divisions, p.sections.length < Position.limit
  | .sections divisions => divisions.length < Position.limit

def Document.SegmentsBelowLimit (d : Document) : Prop := d.body.SegmentsBelowLimit

instance : DecidablePred Body.SegmentsBelowLimit
  | .parts _ => inferInstanceAs (Decidable (_ ∧ _))
  | .sections _ => inferInstanceAs (Decidable (_ < _))

instance : DecidablePred Document.SegmentsBelowLimit := fun d =>
  inferInstanceAs (Decidable d.body.SegmentsBelowLimit)

/-- A draft with parts, one of which is empty. -/
def Document.almanac : Document :=
  ⟨"Almanac", false, none, .parts [
    ⟨"Spring", none, none, false, [
      ⟨"Sowing", none, none, false, .content []⟩,
      ⟨"Planting", none, none, false, .subsections []⟩]⟩,
    ⟨"Summer", none, none, false, []⟩,
    ⟨"Autumn", none, none, false, [
      ⟨"Harvest", none, none, false, .content []⟩]⟩]⟩

/-! ### What numbering builds -/

theorem segments_numberSections (part? : Option PartNumber) (k : Nat) (divisions : List Section) :
    (numberSections part? k divisions).map (.ofSection ·.number) =
      sectionsInOrder part? divisions :=
  map_numberSiblings (fun _ _ _ => rfl) k divisions

theorem Body.readingOrder_numberFrom (k : Nat) (body : Body) :
    (body.numberFrom k).readingOrder = body.readingOrder := by
  cases body with
  | parts divisions =>
      show (numberParts k divisions).flatMap Manuscript.Part.segments = _
      rw [List.flatMap_def, numberParts, map_numberSiblings]
      · rfl
      · exact fun i k p => congrArg (_ :: ·) (segments_numberSections _ k p.sections)
  | sections divisions => exact segments_numberSections none k divisions

theorem numberSections_inRow (part? : Option PartNumber) (k : Nat) {divisions : List Section}
    (hl : divisions.length < Position.limit) :
    SectionsInRow part? (numberSections part? k divisions) := by
  refine ⟨Nat.lt_of_le_of_lt (Nat.le_of_eq (length_numberSiblings _ _ _ _ _)) hl, ?_⟩
  intro i s hs
  rcases getElem?_numberSiblings hs with ⟨_, _, _, _, rfl⟩
  rfl

theorem Body.numberFrom_inRow (k : Nat) {body : Body} (hl : body.SegmentsBelowLimit) :
    (body.numberFrom k).InRow := by
  cases body with
  | parts divisions =>
      refine ⟨Nat.lt_of_le_of_lt (Nat.le_of_eq (length_numberSiblings _ _ _ _ _)) hl.1, ?_, ?_⟩
      · intro i p hp
        rcases getElem?_numberSiblings hp with ⟨_, _, _, _, rfl⟩
        rfl
      · intro p hp
        rcases mem_numberSiblings hp with ⟨source, hsource, _, j, rfl⟩
        exact numberSections_inRow _ j (hl.2 source hsource)
  | sections divisions => exact numberSections_inRow none k hl

variable {d : Document} {doc : Manuscript.Document}

theorem Document.inRow_of_enumerate (hd : d.SegmentsBelowLimit) (h : d.enumerate = .ok doc) :
    doc.body.InRow := by
  rw [(enumerate_eq_ok_iff.mp h).2]
  exact Body.numberFrom_inRow 0 hd

theorem Document.readingOrder_of_enumerate (h : d.enumerate = .ok doc) :
    doc.readingOrder = d.readingOrder := by
  rw [Manuscript.Document.readingOrder, (enumerate_eq_ok_iff.mp h).2]
  exact Body.readingOrder_numberFrom 0 d.body

/-- Navigation through a numbered draft takes the order in which parts and sections stand, and
    their numbers are those of their places in the draft. -/
theorem Document.enumerate_readInOrder (hd : d.SegmentsBelowLimit) (h : d.enumerate = .ok doc) :
    doc.ReadInOrder doc.readingOrder ∧ doc.readingOrder = d.readingOrder :=
  ⟨doc.readInOrder_of_inRow (inRow_of_enumerate hd h), readingOrder_of_enumerate h⟩

theorem Document.enumerate_almanac_readInOrder : almanac.SegmentsBelowLimit ∧
    ∃ doc, almanac.enumerate = .ok doc ∧
      doc.segments.map SegmentNumber.text = ["1", "1.1", "1.2", "2", "3", "3.1"] ∧
      doc.ReadInOrder doc.readingOrder := by
  have hlimit : almanac.SegmentsBelowLimit := by decide
  have horder : almanac.readingOrder.map SegmentNumber.text =
      ["1", "1.1", "1.2", "2", "3", "3.1"] := by
    decide +kernel
  rcases exists_of_isOk (show almanac.enumerate.isOk = true by decide +kernel) with ⟨doc, h⟩
  rcases enumerate_readInOrder hlimit h with ⟨hread, hsame⟩
  refine ⟨hlimit, doc, h, ?_, hread⟩
  rw [hread.segments, hsame]
  exact horder

end Draft

end Manuscript
