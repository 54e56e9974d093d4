import Manuscript.Proofs.Command.Running
import Manuscript.Proofs.Report.Consistency
import Manuscript.Proofs.Text.Wrapping

/-!
# The Listing of Footnotes

Footnotes are printed in lines of limited width, each one behind its number in
brackets. Wherever the lines are broken, nothing of a footnote is lost: its
block has the number and the characters of its plain text in their order, and
what it has besides are spaces and line feeds.

That the lines of a block can be told apart rests on the plain text. Its only
blanks are spaces, so no line feed comes from the text, and all of them are the
ends of lines.

## Main definitions

* `Footnote.IsListed`: A block of lines that lists a footnote.
* `Workspace.leaflet`: A draft with a footnote in a footnote.

## Theorems

* `Footnote.spaced_plainText`: Plain text has no blanks but single spaces.
* `Footnote.isListed_lines`: What is printed of a footnote lists it.
* `Workspace.run_footnoteBlocks`: The blocks that are printed, one for each footnote.
-/

namespace Manuscript

namespace Footnote

/-- A block of lines lists a footnote: the first of them starts with the number in brackets and the
    others with an indent as wide, and apart from spaces and line feeds there is nothing but the
    number and the plain text. -/
structure IsListed (n : NumberedNote) (block : String) : Prop where
  lines : ∃ first rest, Text.lines block.toList = first :: rest ∧
    ("[" ++ toString n.number ++ "] ").toList <+: first ∧
    ∀ line ∈ rest, List.replicate ("[" ++ toString n.number ++ "] ").length ' ' <+: line
  ended : block.toList.getLast? = some '\n'
  squeezed : Text.squeeze block.toList =
    ("[" ++ toString n.number ++ "]").toList ++ n.plainText.toList.filter (· ≠ ' ')

theorem spaced_plainText (n : NumberedNote) : Text.Spaced n.plainText.toList := by
  rw [plainText, Text.toList_normalizeSpace]
  exact Text.spaced_unwords fun _ => Text.isWord_of_mem_runs

theorem isWord_marker (number : FootnoteNumber) :
    Text.IsWord ("[" ++ toString number ++ "]").toList := by
  intro c hc
  rw [String.toList_append, String.toList_append, List.append_assoc, List.mem_append,
    List.mem_append] at hc
  rcases hc with hopen | hnumber | hclose
  · rw [List.mem_singleton.mp hopen]
    decide
  · have hdigits : (toString number).toList = Nat.toDigits 10 number := Nat.toList_repr
    rw [hdigits] at hnumber
    exact isBlank_of_isDigit (Nat.isDigit_of_mem_toDigits (by decide) (by decide) hnumber)
  · rw [List.mem_singleton.mp hclose]
    decide

theorem marker_eq (number : FootnoteNumber) :
    "[" ++ toString number ++ "] " = "[" ++ toString number ++ "]" ++ " " := by
  have hclose : "]" ++ " " = "] " := rfl
  rw [← hclose, ← String.append_assoc]

/-- The plain text of a footnote in lines behind its number. -/
theorem toList_lines (n : NumberedNote) :
    (lines n).toList = Text.unlines
      (Text.wrap listingWidth ("[" ++ toString n.number ++ "] ").toList n.plainText.toList) := by
  have hmarker : footnoteMarker n.number ++ " " = "[" ++ toString n.number ++ "] " :=
    (marker_eq n.number).symm
  rcases Text.exists_divides_wrap listingWidth ("[" ++ toString n.number ++ "] ").toList
    n.plainText.toList with ⟨first, rest, hwrap, -⟩
  rw [lines, hmarker, String.toList_append, String.toList_ofList, hwrap]
  exact Text.intercalate_lineFeed (List.cons_ne_nil _ _)

/-- No line feed is in a line, since there is none in the marker or in the text. -/
theorem ne_lineFeed_of_mem_line (n : NumberedNote) {line : List Char}
    (hline : line ∈ Text.wrap listingWidth ("[" ++ toString n.number ++ "] ").toList
      n.plainText.toList) : '\n' ∉ line := by
  intro hfeed
  rcases Text.mem_wrap hline hfeed with hmarker | hspace | htext
  · rw [marker_eq, String.toList_append, List.mem_append] at hmarker
    rcases hmarker with hword | hspace
    · exact absurd (isWord_marker n.number '\n' hword) (by decide)
    · cases List.mem_singleton.mp hspace
  · cases hspace
  · exact n.spaced_plainText.ne_lineFeed htext rfl

/-- What is printed of a footnote lists it. -/
theorem isListed_lines (n : NumberedNote) : n.IsListed (lines n) where
  lines := by
    rcases Text.exists_divides_wrap listingWidth ("[" ++ toString n.number ++ "] ").toList
      n.plainText.toList with ⟨first, rest, hwrap, -⟩
    -- All line feeds are ends of lines, so the lines that were put together are found again.
    have hlines := Text.lines_unlines fun _ hline => ne_lineFeed_of_mem_line n hline
    rw [← toList_lines, hwrap] at hlines
    refine ⟨_, _, hlines, List.prefix_append _ first, fun line hline => ?_⟩
    rcases List.mem_map.mp hline with ⟨words, -, rfl⟩
    exact List.prefix_append _ words
  ended := by
    rw [lines, String.toList_append]
    exact List.getLast?_concat
  squeezed := by
    rw [toList_lines, Text.squeeze_unlines_wrap, marker_eq, String.toList_append,
      Text.squeeze_append, Text.squeeze_of_isWord (isWord_marker n.number),
      (spaced_plainText n).squeeze_eq]
    exact congrArg (· ++ _) (List.append_nil _)

end Footnote

namespace Workspace

open Surroundings

/-- What is printed of the footnotes are blocks of lines, one for each footnote in the order of
    their numbers. All footnotes in the body of the document are listed, and nothing of their text
    is lost. -/
theorem run_footnoteBlocks {w : Workspace} {file : String} {d : Document}
    (hload : w.load file = .ok d) (colored verbose : Bool) :
    d.footnotes = d.notes ∧
      d.footnotes.map Footnote.number = List.range d.footnotes.length ∧
      ∃ blocks,
        w.run colored ⟨file, .footnotes, verbose⟩ = (.ok (), w.printing (String.join blocks)) ∧
          List.Forall₂ Footnote.IsListed d.footnotes blocks := by
  rcases exists_draft_of_load hload with ⟨draft, hdraft⟩
  refine ⟨(Draft.Document.notes_eq hdraft).symm, Draft.Document.numbers_eq_range hdraft,
    d.footnotes.map Footnote.lines, run_of_text hload rfl rfl, ?_⟩
  exact List.forall₂_map_right_iff.mpr
    (List.forall₂_same.mpr fun n _ => Footnote.isListed_lines n)

/-- A draft with a footnote in a footnote, the inner one without text. -/
def leaflet : Workspace :=
  ⟨⟨[(["draft"], ("title: T\nsections:\n- title: S\n  content:\n  - paragraph:\n" ++
      "     content:\n     - footnote:\n        content:\n        - text: a\n" ++
      "        - footnote:\n           content:\n           - text: ''\n").toUTF8)],
    fun _ => none⟩, "", ""⟩

theorem run_leaflet_footnoteBlocks : ∃ d, leaflet.load "draft" = .ok d ∧
    d.footnotes.map Footnote.plainText = ["", "a [0]"] ∧
    ∃ blocks,
      leaflet.run false ⟨"draft", .footnotes, false⟩ =
          (.ok (), leaflet.printing (String.join blocks)) ∧
        List.Forall₂ Footnote.IsListed d.footnotes blocks := by
  have htexts : ((leaflet.load "draft").toOption.map fun d =>
      d.footnotes.map Footnote.plainText) = some ["", "a [0]"] := by
    decide +kernel
  cases hload : leaflet.load "draft" with
  | error failure =>
      rw [hload] at htexts
      cases htexts
  | ok d =>
      rw [hload] at htexts
      rcases run_footnoteBlocks hload false false with ⟨-, -, hblocks⟩
      exact ⟨d, rfl, Option.some.inj htexts, hblocks⟩

end Workspace

end Manuscript
