import Manuscript.Proofs.Navigation.Linked
import Manuscript.Proofs.Numbering.Place

/-!
# Reading Order

The segments of a numbered document as they stand in its tree, and the way
that navigation takes through them. Neighbours are computed from numbers, so
they are right only where numbers are those of places. `Body.InRow` asks just
that of the parts and sections, and that every list of them leaves room for
the position after its last element. Without the room a number that stopped at
the limit would be followed by itself.

Where elements stand in a row, looking up the number of any place gives what
stands there, or nothing past the end. That is all the neighbours depend on.
Sections in a row are linked to each other whatever is around them; a part is
linked to its own sections, to the end of the part before it and to the part
after it.

## Main definitions

* `Document.readingOrder`: Every part followed by its sections.
* `Body.InRow`: Parts and sections carry the numbers of their places.
* `Document.ReadInOrder`: Navigation passes through a list of segments.

## Theorems

* `SectionsInRow.filter_of?`: The section found for a place is the one that stands there.
* `Document.linked_sections`: Sections in a row are linked.
* `Document.linked_parts`: So are parts in a row, each with its sections.
* `Document.readInOrder_of_inRow`: Navigation passes through the reading order.
-/

namespace Manuscript

/-! ### Segments of the tree -/

/-- A part and then its sections. -/
def Part.segments (p : Part) : List SegmentNumber :=
  .ofPart p.number :: p.sections.map (.ofSection ·.number)

/-- Every part followed by its sections, or all sections of a document without parts. -/
def Body.readingOrder : Body → List SegmentNumber
  | .parts divisions => divisions.flatMap Part.segments
  | .sections divisions => divisions.map (.ofSection ·.number)

def Document.readingOrder (doc : Document) : List SegmentNumber := doc.body.readingOrder

/-- Navigation passes through a list of segments, and up leads from a section to its part. -/
structure Document.ReadInOrder (doc : Document) (order : List SegmentNumber) : Prop where
  /-- Going forth from the first segment, if it is there, ends after the last one. -/
  trail : Trail doc.next? ((doc.segment? doc.first).map fun _ => doc.first) order
  segments : doc.segments = order
  first : ∀ n, order.head? = some n → doc.first = n
  next : ∀ i n, order[i]? = some n → doc.next? n = order[i + 1]?
  previous_first : ∀ n, order.head? = some n → doc.previous? n = none
  previous : ∀ i n, order[i + 1]? = some n → doc.previous? n = order[i]?
  up_part : ∀ p ∈ doc.parts, doc.up? (.ofPart p.number) = none
  up_in_part : ∀ p ∈ doc.parts, ∀ s ∈ p.sections,
    doc.up? (.ofSection s.number) = some (.ofPart p.number)
  up_section : doc.hasParts = false → ∀ s ∈ doc.sections, doc.up? (.ofSection s.number) = none

/-! ### Elements in a row -/

/-- Sections of a part, or of a document without parts, that carry the numbers of their places. -/
structure SectionsInRow (part? : Option PartNumber) (divisions : List Section) : Prop where
  room : divisions.length < Position.limit
  number : ∀ (i : Nat) (s : Section), divisions[i]? = some s → s.number = ⟨part?, .ofIndex i⟩

/-- Parts that carry the numbers of their places, and so do their sections. -/
structure PartsInRow (divisions : List Part) : Prop where
  room : divisions.length < Position.limit
  number : ∀ (i : Nat) (p : Part), divisions[i]? = some p → p.number = ⟨.ofIndex i⟩
  sections : ∀ p ∈ divisions, SectionsInRow (some p.number) p.sections

/-- The parts and sections of a document carry the numbers of their places. -/
def Body.InRow : Body → Prop
  | .parts divisions => PartsInRow divisions
  | .sections divisions => SectionsInRow none divisions

/-- Looking up the number of a place finds what stands there, and nothing past the end. -/
theorem SectionsInRow.filter_of? {part? : Option PartNumber} {divisions : List Section}
    (h : SectionsInRow part? divisions) (i : Nat) :
    ((Position.ofIndex i).of? divisions).filter (fun s => s.number = ⟨part?, .ofIndex i⟩) =
      divisions[i]? := by
  rw [Position.of?_ofIndex h.room]
  cases hs : divisions[i]? with
  | none => rfl
  | some s =>
      -- What stands there carries the number that was asked for, so it is kept.
      rw [Option.filter_some, h.number i s hs, decide_eq_true rfl, if_pos rfl]

namespace Document

variable {doc : Document} {divisions : List Part}

theorem part?_of_inRow (hb : doc.body = .parts divisions) (h : PartsInRow divisions) (i : Nat) :
    doc.part? ⟨.ofIndex i⟩ = divisions[i]? := by
  rw [part?, parts, hb]
  exact Position.of?_ofIndex h.room i

/-- How a document finds the sections of a row, in a part or outside of parts. -/
def Finds (doc : Document) (part? : Option PartNumber) (divisions : List Section) : Prop :=
  ∀ i, doc.section? ⟨part?, .ofIndex i⟩ = divisions[i]?

theorem finds_of_sections {divisions : List Section} (hb : doc.body = .sections divisions)
    (h : SectionsInRow none divisions) : doc.Finds none divisions := by
  intro i
  rw [section?, hb]
  exact h.filter_of? i

theorem finds_of_part (hb : doc.body = .parts divisions) (h : PartsInRow divisions) {p : Part}
    (hp : p ∈ divisions) : doc.Finds (some p.number) p.sections := by
  intro i
  -- The number of the section names the part, and the part is found by its own number.
  have hpart : doc.part? p.number = some p := by
    rcases List.mem_iff_getElem?.mp hp with ⟨j, hj⟩
    rw [h.number j p hj, part?_of_inRow hb h, hj]
  rw [section?, hb]
  show (doc.part? p.number).bind (fun q => q.section? ⟨some p.number, .ofIndex i⟩) = p.sections[i]?
  rw [hpart, Option.bind_some, Part.section?, if_pos rfl]
  exact (h.sections p hp).filter_of? i

/-! ### Links -/

section Sections

variable {part? : Option PartNumber} {divisions : List Section} {i : Nat} {s : Section}

theorem segment?_of_finds (h : SectionsInRow part? divisions) (hf : doc.Finds part? divisions)
    (hs : divisions[i]? = some s) :
    doc.segment? (.ofSection s.number) = some (.ofSection s) := by
  rw [segment?, h.number i s hs, hf i, hs]
  rfl

theorem next?_of_finds (h : SectionsInRow part? divisions) (hf : doc.Finds part? divisions)
    (hs : divisions[i]? = some s) :
    doc.next? (.ofSection s.number) =
      (divisions[i + 1]?.map (.ofSection ·.number)).or (part?.bind doc.followingPart?) := by
  have hpart : s.number.part? = part? := by rw [h.number i s hs]
  have hnext : s.number.next = ⟨part?, .ofIndex (i + 1)⟩ := by
    rw [h.number i s hs, ← Position.next_ofIndex]
    rfl
  simp only [next?, segment?_of_finds h hf hs, hpart, hnext, hf (i + 1)]
  -- Past the end of the row nothing is found, and the part that follows is next.
  cases ht : divisions[i + 1]? with
  | none => rfl
  | some t =>
      rw [Option.map_some, h.number (i + 1) t ht]
      rfl

theorem previous?_of_finds_zero (h : SectionsInRow part? divisions) (hf : doc.Finds part? divisions)
    (hs : divisions[0]? = some s) : doc.previous? (.ofSection s.number) = part?.map .ofPart := by
  have hfirst : s.number.previous? = none := by
    rw [h.number 0 s hs]
    rfl
  simp only [previous?, segment?_of_finds h hf hs, hfirst]
  rw [h.number 0 s hs]

theorem previous?_of_finds_succ (h : SectionsInRow part? divisions) (hf : doc.Finds part? divisions)
    (hs : divisions[i + 1]? = some s) :
    doc.previous? (.ofSection s.number) = divisions[i]?.map (.ofSection ·.number) := by
  rcases List.getElem?_eq_some_iff.mp hs with ⟨hi, _⟩
  -- The place is below the limit, so its position is not cut off and one step back undoes it.
  have hprevious : s.number.previous? = some ⟨part?, .ofIndex i⟩ := by
    rw [h.number (i + 1) s hs, SectionNumber.previous?,
      Position.previous?_ofIndex_succ (Nat.lt_trans hi h.room)]
    rfl
  have ht : divisions[i]? = some divisions[i] := List.getElem?_eq_getElem (Nat.lt_of_succ_lt hi)
  simp only [previous?, segment?_of_finds h hf hs, hprevious]
  rw [ht, Option.map_some, h.number i _ ht]

theorem up?_of_finds (h : SectionsInRow part? divisions) (hf : doc.Finds part? divisions)
    (hs : s ∈ divisions) : doc.up? (.ofSection s.number) = part?.map .ofPart := by
  rcases List.mem_iff_getElem?.mp hs with ⟨i, hi⟩
  simp only [up?, segment?_of_finds h hf hi]
  rw [h.number i s hi]

/-- Sections in a row are linked. Before the first of them comes their part, and after the last the
    part that follows. -/
theorem linked_sections (h : SectionsInRow part? divisions) (hf : doc.Finds part? divisions) :
    Linked doc.next? doc.previous? (part?.bind doc.followingPart?) (part?.map .ofPart)
      (divisions.map (.ofSection ·.number)) :=
  .map (next?_of_finds h hf) (previous?_of_finds_zero h hf) (previous?_of_finds_succ h hf)

end Sections

section Parts

variable {i : Nat} {p : Part}

theorem segment?_of_inRow (hb : doc.body = .parts divisions) (h : PartsInRow divisions)
    (hp : divisions[i]? = some p) : doc.segment? (.ofPart p.number) = some (.ofPart p) := by
  rw [segment?, h.number i p hp, part?_of_inRow hb h, hp]
  rfl

theorem followingPart?_of_inRow (hb : doc.body = .parts divisions) (h : PartsInRow divisions)
    (hp : divisions[i]? = some p) :
    doc.followingPart? p.number = divisions[i + 1]?.map (.ofPart ·.number) := by
  have hnext : p.number.next = ⟨.ofIndex (i + 1)⟩ := by
    rw [h.number i p hp, ← Position.next_ofIndex]
    rfl
  rw [followingPart?, hnext, part?_of_inRow hb h]

theorem next?_of_inRow (hb : doc.body = .parts divisions) (h : PartsInRow divisions)
    (hp : divisions[i]? = some p) :
    doc.next? (.ofPart p.number) =
      (p.sections.map (.ofSection ·.number)).head?.or (doc.followingPart? p.number) := by
  simp only [next?, segment?_of_inRow hb h hp, List.head?_map]
  cases p.sections.head? <;> rfl

theorem previous?_of_inRow_zero (hb : doc.body = .parts divisions) (h : PartsInRow divisions)
    (hp : divisions[0]? = some p) : doc.previous? (.ofPart p.number) = none := by
  have hfirst : p.number.previous? = none := by
    rw [h.number 0 p hp]
    rfl
  simp only [previous?, segment?_of_inRow hb h hp, hfirst]
  rfl

/-- Back from a part leads to the end of the part before it. -/
theorem previous?_of_inRow_succ (hb : doc.body = .parts divisions) (h : PartsInRow divisions)
    (hp : divisions[i + 1]? = some p) {q : Part} (hq : divisions[i]? = some q) :
    doc.previous? (.ofPart p.number) = q.segments.getLast? := by
  rcases List.getElem?_eq_some_iff.mp hp with ⟨hi, _⟩
  have hprevious : p.number.previous? = some ⟨.ofIndex i⟩ := by
    rw [h.number (i + 1) p hp, PartNumber.previous?,
      Position.previous?_ofIndex_succ (Nat.lt_trans hi h.room)]
    rfl
  have hbefore : doc.part? ⟨.ofIndex i⟩ = some q := by rw [part?_of_inRow hb h, hq]
  simp only [previous?, segment?_of_inRow hb h hp, hprevious, Option.bind_eq_bind,
    Option.bind_some, hbefore]
  rw [Part.segments, List.getLast?_cons, List.getLast?_map]
  cases q.sections.getLast? <;> rfl

/-- A part is linked to its sections. After the last of them comes the part that follows. -/
theorem linked_segments (hb : doc.body = .parts divisions) (h : PartsInRow divisions)
    (hp : divisions[i]? = some p) :
    Linked doc.next? doc.previous? (doc.followingPart? p.number)
      (doc.previous? (.ofPart p.number)) p.segments := by
  have hmem : p ∈ divisions := List.mem_of_getElem? hp
  exact ⟨rfl, next?_of_inRow hb h hp, linked_sections (h.sections p hmem) (finds_of_part hb h hmem)⟩

/-- Parts in a row are linked, from any of them on. Before the first of the rest comes what is
    before it in the whole row, and before each other one the end of the part in front of it. -/
theorem linked_parts (hb : doc.body = .parts divisions) (h : PartsInRow divisions)
    {rest : List Part} (hrest : ∀ j, rest[j]? = divisions[i + j]?) {before : Option SegmentNumber}
    (hbefore : ∀ p, divisions[i]? = some p → doc.previous? (.ofPart p.number) = before) :
    Linked doc.next? doc.previous? none before (rest.flatMap Part.segments) := by
  induction rest generalizing i before with
  | nil => trivial
  | cons p tail ih =>
      have hp : divisions[i]? = some p := (hrest 0).symm
      -- What follows the segments of this part is the first of the tail, if there is one.
      have hafter : doc.followingPart? p.number = (tail.flatMap Part.segments).head?.or none := by
        rw [followingPart?_of_inRow hb h hp, ← hrest 1, Option.or_none]
        cases tail <;> rfl
      have hlinked := linked_segments hb h hp
      rw [hafter, hbefore p hp] at hlinked
      rw [List.flatMap_cons]
      refine hlinked.append (ih (i := i + 1) ?_ ?_)
      · intro j
        rw [Nat.add_right_comm, Nat.add_assoc, ← hrest (j + 1)]
        rfl
      · -- A part is never without segments, so the end before the tail is the end of this part.
        intro q hq
        rw [previous?_of_inRow_succ hb h hq hp, Part.segments, List.getLast?_cons, Option.some_or]

theorem up?_ofPart (n : PartNumber) : doc.up? (.ofPart n) = none := by
  rw [up?, segment?]
  cases doc.part? n <;> rfl

end Parts

/-! ### The whole document -/

theorem linked_readingOrder (h : doc.body.InRow) :
    Linked doc.next? doc.previous? none none doc.readingOrder := by
  unfold readingOrder
  cases hb : doc.body with
  | parts divisions =>
      rw [hb] at h
      exact linked_parts hb h (i := 0) (fun j => by rw [Nat.zero_add])
        (fun _ => previous?_of_inRow_zero hb h)
  | sections divisions =>
      rw [hb] at h
      exact linked_sections h (finds_of_sections hb h)

/-- The reading order begins with the first segment, unless there is none. -/
theorem head?_readingOrder (h : doc.body.InRow) :
    doc.readingOrder.head? = (doc.segment? doc.first).map fun _ => doc.first := by
  unfold readingOrder first hasParts
  -- The first number is that of place zero, where a list that is not empty has its head.
  cases hb : doc.body with
  | parts divisions =>
      rw [hb] at h
      have hfirst : doc.segment? (.ofPart .first) = divisions[0]?.map .ofPart :=
        congrArg (Option.map Segment.ofPart) (part?_of_inRow hb h 0)
      rw [if_pos rfl, hfirst]
      cases divisions with
      | nil => rfl
      | cons p rest => exact congrArg (some <| SegmentNumber.ofPart ·) (h.number 0 p rfl)
  | sections divisions =>
      rw [hb] at h
      have hfirst : doc.segment? (.ofSection ⟨none, .first⟩) = divisions[0]?.map .ofSection :=
        congrArg (Option.map Segment.ofSection) (finds_of_sections hb h 0)
      rw [if_neg Bool.false_ne_true, hfirst]
      cases divisions with
      | nil => rfl
      | cons s rest => exact congrArg (some <| SegmentNumber.ofSection ·) (h.number 0 s rfl)

theorem length_readingOrder (doc : Document) : doc.readingOrder.length = doc.segmentCount := by
  unfold readingOrder segmentCount parts sections
  cases doc.body with
  | parts divisions =>
      show (divisions.flatMap Part.segments).length =
        divisions.length + (divisions.flatMap (·.sections)).length
      induction divisions with
      | nil => rfl
      | cons p rest ih =>
          rw [List.flatMap_cons, List.flatMap_cons, List.length_append, List.length_append, ih,
            Part.segments, List.length_cons, List.length_cons, List.length_map]
          omega
  | sections divisions =>
      show (divisions.map _).length = 0 + divisions.length
      rw [List.length_map, Nat.zero_add]

theorem up?_in_part (h : doc.body.InRow) {p : Part} (hp : p ∈ doc.parts) {s : Section}
    (hs : s ∈ p.sections) : doc.up? (.ofSection s.number) = some (.ofPart p.number) := by
  unfold parts at hp
  cases hb : doc.body with
  | parts divisions =>
      rw [hb] at h hp
      exact up?_of_finds (h.sections p hp) (finds_of_part hb h hp) hs
  | sections divisions =>
      rw [hb] at hp
      exact absurd hp List.not_mem_nil

theorem up?_of_not_hasParts (h : doc.body.InRow) (hparts : doc.hasParts = false) {s : Section}
    (hs : s ∈ doc.sections) : doc.up? (.ofSection s.number) = none := by
  unfold hasParts at hparts
  unfold sections at hs
  cases hb : doc.body with
  | parts divisions =>
      rw [hb] at hparts
      cases hparts
  | sections divisions =>
      rw [hb] at h hs
      exact up?_of_finds h (finds_of_sections hb h) hs

/-- Where parts and sections are in a row, navigation passes through them as they stand in the
    tree. -/
theorem readInOrder_of_inRow (h : doc.body.InRow) : doc.ReadInOrder doc.readingOrder := by
  have hlinked := linked_readingOrder h
  have hhead := head?_readingOrder h
  -- The list is linked up to nothing, so the loop that starts at its head ends with it.
  have htrail := hlinked.trail
  rw [hhead] at htrail
  refine
    { trail := htrail
      segments := follow_of_trail htrail (Nat.le_of_eq (length_readingOrder doc))
      first := ?_
      next := fun i n hn => ?_
      previous_first := fun n hn => ?_
      previous := fun i n hn => hlinked.previous_eq hn
      up_part := fun p _ => up?_ofPart p.number
      up_in_part := fun p hp s hs => up?_in_part h hp hs
      up_section := fun hparts s hs => up?_of_not_hasParts h hparts hs }
  · intro n hn
    rw [hhead, Option.map_eq_some_iff] at hn
    rcases hn with ⟨_, _, heq⟩
    exact heq
  · rw [hlinked.next_eq hn, Option.or_none]
  · rw [List.head?_eq_getElem?] at hn
    exact hlinked.previous_head hn

end Document

end Manuscript
