import Manuscript.Proofs.Navigation.Lookup
import Manuscript.Proofs.Number.Segment
import Manuscript.Proofs.Numbering.ReadingOrder

/-!
# Printed Numbers of Segments

The printed number of a segment is a name for it. A reader of the name does not
see whether it is that of a part or of a section, and is told instead whether
the document has parts. This is enough within one document, because all of its
segments fit it in the same way: parts and sections in parts, or sections that
stand in no part.

The segments are listed by going forth from the first one. Going back undoes
that, so no segment is listed twice, and since each name leads back to its
segment, no name is either.

## Theorems

* `Document.fits_of_mem_segments`: The segments of a document fit it.
* `Document.nodup_segments`: None of them is listed twice.
* `SegmentNumber.printed_numbers_read_back`: Printed numbers name the segments.
-/

namespace Manuscript

namespace Document

variable {doc : Document}

theorem fits_of_contains (h : doc.body.InRow) {g : Segment} (hg : doc.Contains g) :
    g.number.Fits doc.hasParts := by
  unfold hasParts
  cases g with
  | ofPart p =>
      have hp : p ∈ doc.parts := hg
      unfold parts at hp
      cases hb : doc.body with
      | parts divisions => rfl
      | sections divisions =>
          rw [hb] at hp
          exact absurd hp List.not_mem_nil
  | ofSection s =>
      have hs : s ∈ doc.sections := hg
      show s.number.part?.isSome = _
      unfold sections at hs
      cases hb : doc.body with
      | parts divisions =>
          -- A section names the part in which it stands.
          rw [hb] at h hs
          rcases List.mem_flatMap.mp hs with ⟨p, hp, hsp⟩
          rw [(PartsInRow.sections h p hp).part?_eq hsp]
          rfl
      | sections divisions =>
          rw [hb] at h hs
          have hrow : SectionsInRow none divisions := h
          rw [hrow.part?_eq hs]
          rfl

/-- A listed segment stands in the document and is found under its number. -/
theorem exists_of_mem_segments (h : doc.body.InRow) {n : SegmentNumber} (hn : n ∈ doc.segments) :
    ∃ g, doc.Contains g ∧ g.number = n ∧ doc.segment? n = some g := by
  rcases Option.isSome_iff_exists.mp ((isSome_segment? h n).mpr hn) with ⟨g, hg⟩
  rcases (segment?_eq_some_iff h).mp hg with ⟨hcontains, hnumber⟩
  exact ⟨g, hcontains, hnumber, hg⟩

theorem fits_of_mem_segments (h : doc.body.InRow) {n : SegmentNumber} (hn : n ∈ doc.segments) :
    n.Fits doc.hasParts := by
  rcases exists_of_mem_segments h hn with ⟨g, hg, rfl, -⟩
  exact fits_of_contains h hg

theorem nodup_segments (h : doc.body.InRow) : doc.segments.Nodup := by
  rw [(readInOrder_of_inRow h).segments]
  exact (linked_readingOrder h).nodup

/-- Different segments have different names, because each name is read as its segment. -/
theorem nodup_map_text_segments (h : doc.body.InRow) :
    (doc.segments.map SegmentNumber.text).Nodup := by
  refine List.pairwise_map.mpr ((nodup_segments h).imp_of_mem fun hm hn hne heq => hne ?_)
  have hread := SegmentNumber.read_printed (fits_of_mem_segments h hm)
  rw [heq, SegmentNumber.read_printed (fits_of_mem_segments h hn)] at hread
  exact (Except.ok.inj hread).symm

end Document

/-- Printing and reading are inverse to each other, up to blanks around the text and zeros in front
    of its components, and the names of the segments of a numbered draft tell them apart. -/
theorem SegmentNumber.printed_numbers_read_back :
    (∀ (n : SegmentNumber) (hasParts : Bool), n.Fits hasParts →
      ∀ before after, Text.IsGap before → Text.IsGap after →
        read (String.ofList (before ++ n.text.toList ++ after)) hasParts = .ok n) ∧
    (∀ (text : String) (hasParts : Bool) (n : SegmentNumber), read text hasParts = .ok n →
      n.Fits hasParts ∧ ∃ t, Text.IsTrimmed text.toList t ∧
        n.text.toList = ['.'].intercalate ((t.splitOn '.').map (·.dropWhile (· = '0')))) ∧
    ∀ (d : Draft.Document) (doc : Document), d.SegmentsBelowLimit → d.enumerate = .ok doc →
      (doc.segments.map SegmentNumber.text).Nodup ∧
      ∀ n ∈ doc.segments, read n.text doc.hasParts = .ok n ∧
        ∃ g, doc.Contains g ∧ g.number = n ∧ doc.segment? n = some g := by
  refine ⟨fun _ _ hfits _ _ => read_padded hfits, fun _ _ _ => text_of_read,
    fun d doc hd h => ?_⟩
  have hrow := Draft.Document.inRow_of_enumerate hd h
  refine ⟨doc.nodup_map_text_segments hrow, fun n hn => ⟨?_, ?_⟩⟩
  · exact read_printed (doc.fits_of_mem_segments hrow hn)
  · exact doc.exists_of_mem_segments hrow hn

/-- The last section of the almanac: with its printed number, with blanks around it, and with zeros
    in front of its components. -/
theorem SegmentNumber.almanac_numbers_read_back :
    Fits true (ofSection ⟨some ⟨.ofIndex 2⟩, .ofIndex 0⟩) ∧
    read "\t3.1 " true = .ok (ofSection ⟨some ⟨.ofIndex 2⟩, .ofIndex 0⟩) ∧
    (∃ n, read "003.01" true = .ok n ∧ n.text = "3.1") ∧
    Draft.Document.almanac.SegmentsBelowLimit ∧
    ∃ doc, Draft.Document.almanac.enumerate = .ok doc ∧
      (doc.segments.map SegmentNumber.text).Nodup := by
  rcases printed_numbers_read_back with ⟨hprinted, hread, hdocument⟩
  have hlimit : Draft.Document.almanac.SegmentsBelowLimit := by decide
  have hok : Draft.Document.almanac.enumerate.isOk = true := by decide +kernel
  rcases Draft.exists_of_isOk hok with ⟨doc, h⟩
  refine ⟨rfl, ?_, ?_, hlimit, doc, h, (hdocument _ doc hlimit h).1⟩
  · exact hprinted (ofSection ⟨some ⟨.ofIndex 2⟩, .ofIndex 0⟩) true rfl ['\t'] [' ']
      (List.all_eq_true.mp (by decide)) (List.all_eq_true.mp (by decide))
  · have hzeros : read "003.01" true = .ok (ofSection ⟨some ⟨.ofIndex 2⟩, .ofIndex 0⟩) := by
      decide +kernel
    rcases (hread _ true _ hzeros).2 with ⟨t, ht, htext⟩
    refine ⟨_, hzeros, String.toList_inj.mp ?_⟩
    rw [htext, ← ht.trim_eq]
    decide +kernel

end Manuscript
