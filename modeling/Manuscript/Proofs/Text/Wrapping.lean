import Manuscript.Text.Wrapping
import Manuscript.Proofs.Text.Blank
import Manuscript.Proofs.Text.Lines

/-!
# What Wrapping Keeps

Wrapping a text loses nothing of it but spaces. A text is cut into words, words
are cut into pieces, and the pieces are put into lines. Each step goes from the
front to the back and puts every character somewhere, so what comes out is the
text when it is read one after the other. Only a line is printed without the
spaces at its end.

Where the cuts are made does not matter for this. Places where a line may end,
hyphens, widths and the costs of lines only say which way is taken, and the
lemmas hold for any of them. A list can be cut by any sizes, since what is left
over makes up one more part.

`Divides` is what remains to be said of the lines: the text is the lines one
after the other, with some spaces after each of them. So the lines have the
characters of the text in their order, apart from spaces.

## Main definitions

* `Text.Divides`: Lines that make up a text with spaces after each of them.
* `Text.squeeze`: A text without its spaces and line feeds.

## Theorems

* `Text.flatMap_chars_spaced`: The words of a text make up the text.
* `Text.flatMap_chars_pieces`: So do the pieces of a word.
* `Text.flatten_partition`: A list that is cut by any sizes.
* `Text.exists_divides_wrap`: Wrapping divides the text into lines.
* `Text.squeeze_unlines_wrap`: The lines have all characters of the marker and the text.
-/

namespace Manuscript

namespace Text

/-! ### Words -/

/-- The letters of a word and the spaces after them are all of its characters. -/
theorem Word.chars_ofChars (cs : List Char) : (ofChars cs).chars = cs := by
  let spaces := cs.reverse.takeWhile (· = ' ')
  let letters := cs.reverse.dropWhile (· = ' ')
  have hspaces : spaces = List.replicate spaces.length ' ' :=
    List.eq_replicate_of_mem fun c hc =>
      of_decide_eq_true (List.all_eq_true.mp List.all_takeWhile c hc)
  have hcs : letters.reverse ++ List.replicate spaces.length ' ' = cs := by
    rw [← List.reverse_replicate, ← hspaces, ← List.reverse_append,
      List.takeWhile_append_dropWhile, List.reverse_reverse]
  have hlength : cs.length - letters.length = spaces.length := by
    have hsum := congrArg List.length hcs
    rw [List.length_append, List.length_reverse, List.length_replicate] at hsum
    omega
  show letters.reverse ++ List.replicate (cs.length - letters.length) ' ' = cs
  rw [hlength, hcs]

theorem flatten_splitFrom (s : ControlState) (word : List Char) (ends : List Bool)
    (cs : List Char) : (splitFrom s word ends cs).flatten = word.reverse ++ cs := by
  induction cs generalizing s word ends with
  | nil =>
      cases word with
      | nil => rfl
      | cons c word =>
          rw [splitFrom, List.append_nil]
          exact List.flatten_singleton
  | cons c cs ih =>
      -- The character goes to the word under way, whether the word ends after it or not.
      have hnext : ∀ ends, (splitFrom (s.next c) (c :: word) ends cs).flatten =
          word.reverse ++ c :: cs := by
        intro ends
        rw [ih, List.reverse_cons, List.append_assoc, List.singleton_append]
      unfold splitFrom
      split
      case isTrue =>
        split
        case isTrue =>
          rw [List.flatten_cons, ih, List.reverse_nil, List.nil_append, List.reverse_cons,
            List.append_assoc, List.singleton_append]
        case isFalse => exact hnext ends.tail
      case isFalse => exact hnext ends

/-- The words of a text make up the text. -/
theorem flatMap_chars_spaced (cs : List Char) : (spaced cs).flatMap Word.chars = cs := by
  have hchars : (fun piece => (Word.ofChars piece).chars) = id := funext Word.chars_ofChars
  rw [spaced, List.flatMap_map, hchars, List.flatMap_id, flatten_splitFrom]
  rfl

/-! ### Pieces of words -/

theorem flatten_hyphenatedFrom (part cs : List Char) :
    (hyphenatedFrom part cs).flatten = part.reverse ++ cs := by
  induction cs generalizing part with
  | nil => rfl
  | cons c cs ih =>
      unfold hyphenatedFrom
      split
      case isTrue =>
        rw [List.flatten_cons, ih, List.reverse_nil, List.nil_append, List.reverse_cons,
          List.append_assoc, List.singleton_append]
      case isFalse => rw [ih, List.reverse_cons, List.append_assoc, List.singleton_append]

theorem hyphenatedFrom_ne_nil (part cs : List Char) : hyphenatedFrom part cs ≠ [] := by
  induction cs generalizing part with
  | nil => exact List.cons_ne_nil _ _
  | cons c cs ih =>
      unfold hyphenatedFrom
      split
      case isTrue => exact List.cons_ne_nil _ _
      case isFalse => exact ih (c :: part)

theorem flatten_cutFrom (room : Nat) (s : ControlState) (piece : List Char) (size : Nat)
    (cs : List Char) : (cutFrom room s piece size cs).flatten = piece.reverse ++ cs := by
  induction cs generalizing s piece size with
  | nil => rw [cutFrom, List.flatten_singleton, List.append_nil]
  | cons c cs ih =>
      rw [cutFrom]
      -- The width of the character only tells where to cut.
      generalize (if s.shows c = true then charWidth c else 0) = width
      split
      case isTrue => rw [List.flatten_cons, ih, List.reverse_singleton, List.singleton_append]
      case isFalse => rw [ih, List.reverse_cons, List.append_assoc, List.singleton_append]

theorem cutFrom_ne_nil (room : Nat) (s : ControlState) (piece : List Char) (size : Nat)
    (cs : List Char) : cutFrom room s piece size cs ≠ [] := by
  induction cs generalizing s piece size with
  | nil => exact List.cons_ne_nil _ _
  | cons c cs ih =>
      rw [cutFrom]
      generalize (if s.shows c = true then charWidth c else 0) = width
      split
      case isTrue => exact List.cons_ne_nil _ _
      case isFalse => exact ih _ _ _

theorem flatten_cut (room : Nat) (letters : List Char) : (cut room letters).flatten = letters :=
  flatten_cutFrom room .outside [] 0 letters

theorem flatten_flatMap_cut (room : Nat) (parts : List (List Char)) :
    (parts.flatMap (cut room)).flatten = parts.flatten := by
  induction parts with
  | nil => rfl
  | cons part rest ih =>
      rw [List.flatMap_cons, List.flatten_append, flatten_cut, ih, List.flatten_cons]

theorem flatMap_cut_ne_nil (room : Nat) {parts : List (List Char)} (h : parts ≠ []) :
    parts.flatMap (cut room) ≠ [] := by
  rcases List.exists_mem_of_ne_nil _ h with ⟨part, hpart⟩
  intro hnil
  exact cutFrom_ne_nil room .outside [] 0 part (List.flatMap_eq_nil_iff.mp hnil part hpart)

theorem flatMap_chars_joinSpaces (spaces : Nat) {pieces : List (List Char)} (h : pieces ≠ []) :
    (joinSpaces spaces pieces).flatMap Word.chars =
      pieces.flatten ++ List.replicate spaces ' ' := by
  induction pieces with
  | nil => exact absurd rfl h
  | cons piece rest ih =>
      cases rest with
      | nil => rw [joinSpaces, List.flatMap_singleton, List.flatten_singleton, Word.chars]
      | cons next rest =>
          rw [joinSpaces, List.flatMap_cons, ih (List.cons_ne_nil next rest), Word.chars,
            List.replicate_zero, List.append_nil, ← List.append_assoc]
          · rfl
          · exact List.cons_ne_nil next rest

/-- The pieces of a word make up the word with the spaces after it. -/
theorem flatMap_chars_pieces (room : Nat) (w : Word) :
    (w.pieces room).flatMap Word.chars = w.chars := by
  have hne : (hyphenated w.letters).flatMap (cut room) ≠ [] :=
    flatMap_cut_ne_nil room (hyphenatedFrom_ne_nil [] w.letters)
  rw [Word.pieces, flatMap_chars_joinSpaces _ hne, flatten_flatMap_cut, hyphenated,
    flatten_hyphenatedFrom]
  rfl

theorem flatMap_chars_wordsFor (room : Nat) (cs : List Char) :
    (wordsFor room cs).flatMap Word.chars = cs := by
  rw [wordsFor, List.flatMap_assoc, funext (flatMap_chars_pieces room), flatMap_chars_spaced]

/-! ### Lines -/

/-- The text is the lines one after the other, with some spaces after each of them. -/
inductive Divides : List (List Char) → List Char → Prop where
  | nil : Divides [] []
  | cons (line : List Char) (spaces : Nat) {lines : List (List Char)} {cs : List Char} :
      Divides lines cs → Divides (line :: lines) (line ++ List.replicate spaces ' ' ++ cs)

theorem exists_spaces_lineChars (ws : List Word) :
    ∃ spaces, ws.flatMap Word.chars = lineChars ws ++ List.replicate spaces ' ' := by
  induction ws with
  | nil => exact ⟨0, rfl⟩
  | cons w rest ih =>
      cases rest with
      | nil => exact ⟨w.spaces, List.flatMap_singleton Word.chars w⟩
      | cons next rest =>
          rcases ih with ⟨spaces, hspaces⟩
          have hline : lineChars (w :: next :: rest) = w.chars ++ lineChars (next :: rest) := by
            rw [lineChars]
            exact List.cons_ne_nil next rest
          exact ⟨spaces, by rw [List.flatMap_cons, hspaces, hline, List.append_assoc]⟩

/-- Whatever the sizes are, the parts of a list make up the list. -/
theorem flatten_partition {α : Type} (sizes : List Nat) (items : List α) :
    (partition sizes items).flatten = items := by
  induction sizes generalizing items with
  | nil =>
      cases items with
      | nil => rfl
      | cons item rest => exact List.flatten_singleton
  | cons n sizes ih => rw [partition, List.flatten_cons, ih, List.take_append_drop]

theorem divides_map_lineChars (parts : List (List Word)) :
    Divides (parts.map lineChars) (parts.flatten.flatMap Word.chars) := by
  induction parts with
  | nil => exact .nil
  | cons part rest ih =>
      rcases exists_spaces_lineChars part with ⟨spaces, hspaces⟩
      rw [List.map_cons, List.flatten_cons, List.flatMap_append, hspaces]
      exact .cons (lineChars part) spaces ih

/-- Wrapping divides the text into lines. The marker comes before the first of them, and as many
    spaces before every other one. -/
theorem exists_divides_wrap (width : Nat) (marker cs : List Char) :
    ∃ first rest, wrap width marker cs =
        (marker ++ first) :: rest.map (List.replicate marker.length ' ' ++ ·) ∧
      Divides (first :: rest) cs := by
  let words := ⟨[], 0⟩ :: wordsFor (width - marker.length) cs
  let parts := partition (lineSizes (width - marker.length) words) words
  have hwords : words.flatMap Word.chars = cs := flatMap_chars_wordsFor _ cs
  have hparts : parts.flatten = words := flatten_partition _ words
  have hdivides : Divides (parts.map lineChars) cs := by
    have hall := divides_map_lineChars parts
    rwa [hparts, hwords] at hall
  -- There is a line because there is a word, if only the empty one in front.
  cases hlines : parts.map lineChars with
  | nil =>
      rw [List.map_eq_nil_iff.mp hlines] at hparts
      exact absurd hparts.symm (List.cons_ne_nil _ _)
  | cons first rest =>
      refine ⟨first, rest, ?_, hlines ▸ hdivides⟩
      rw [wrap, hlines]

theorem Divides.mem {lines : List (List Char)} {cs : List Char} (h : Divides lines cs)
    {line : List Char} (hline : line ∈ lines) {c : Char} (hc : c ∈ line) : c ∈ cs := by
  induction h with
  | nil => cases hline
  | cons first spaces _ ih =>
      rw [List.append_assoc, List.mem_append, List.mem_append]
      rcases List.mem_cons.mp hline with rfl | hrest
      · exact .inl hc
      · exact .inr (.inr (ih hrest))

/-- In a line there are only characters of the marker and of the text, and spaces. -/
theorem mem_wrap {width : Nat} {marker cs line : List Char} (hline : line ∈ wrap width marker cs)
    {c : Char} (hc : c ∈ line) : c ∈ marker ∨ c = ' ' ∨ c ∈ cs := by
  rcases exists_divides_wrap width marker cs with ⟨first, rest, hwrap, hdivides⟩
  rw [hwrap] at hline
  rcases List.mem_cons.mp hline with rfl | hrest
  · exact (List.mem_append.mp hc).imp_right fun h => .inr (hdivides.mem List.mem_cons_self h)
  · rcases List.mem_map.mp hrest with ⟨line, hmem, rfl⟩
    refine .inr ((List.mem_append.mp hc).imp List.eq_of_mem_replicate fun h => ?_)
    exact hdivides.mem (List.mem_cons_of_mem first hmem) h

/-! ### Without spaces and line feeds -/

/-- A text without its spaces and line feeds. -/
def squeeze (cs : List Char) : List Char := cs.filter fun c => !(c = ' ' || c = '\n')

theorem squeeze_append (l r : List Char) : squeeze (l ++ r) = squeeze l ++ squeeze r :=
  List.filter_append l r

theorem squeeze_spaces (n : Nat) : squeeze (List.replicate n ' ') = [] := by
  rw [squeeze, List.filter_eq_nil_iff]
  intro c hc
  rw [List.eq_of_mem_replicate hc]
  decide

theorem Divides.squeeze_flatten {lines : List (List Char)} {cs : List Char}
    (h : Divides lines cs) : squeeze lines.flatten = squeeze cs := by
  induction h with
  | nil => rfl
  | cons line spaces _ ih =>
      rw [List.flatten_cons, squeeze_append, squeeze_append, squeeze_append, squeeze_spaces,
        List.append_nil, ih]

theorem squeeze_unlines (ls : List (List Char)) : squeeze (unlines ls) = squeeze ls.flatten := by
  induction ls with
  | nil => rfl
  | cons line ls ih =>
      rw [unlines, List.flatMap_cons, ← unlines, squeeze_append, squeeze_append, ih,
        List.flatten_cons, squeeze_append]
      exact congrArg (· ++ _) (List.append_nil _)

theorem squeeze_flatten_indented (n : Nat) (ls : List (List Char)) :
    squeeze (ls.map (List.replicate n ' ' ++ ·)).flatten = squeeze ls.flatten := by
  induction ls with
  | nil => rfl
  | cons line ls ih =>
      rw [List.map_cons, List.flatten_cons, squeeze_append, squeeze_append, squeeze_spaces,
        List.nil_append, ih, List.flatten_cons, squeeze_append]

/-- The lines have all characters of the marker and of the text, each as often and in the same
    order, apart from spaces and line feeds. -/
theorem squeeze_unlines_wrap (width : Nat) (marker cs : List Char) :
    squeeze (unlines (wrap width marker cs)) = squeeze marker ++ squeeze cs := by
  rcases exists_divides_wrap width marker cs with ⟨first, rest, hwrap, hdivides⟩
  calc squeeze (unlines (wrap width marker cs))
      = squeeze marker ++ (squeeze first ++ squeeze rest.flatten) := by
        rw [hwrap, squeeze_unlines, List.flatten_cons, squeeze_append, squeeze_append,
          squeeze_flatten_indented, List.append_assoc]
    _ = squeeze marker ++ squeeze (first :: rest).flatten := by
        rw [List.flatten_cons, squeeze_append]
    _ = squeeze marker ++ squeeze cs := by rw [hdivides.squeeze_flatten]

example : wrap 12 "[0] ".toList "a well-known abcdefghij".toList =
    ["[0] a well-".toList, "    known".toList, "    abcdefgh".toList, "    ij".toList] := by
  decide +kernel

theorem squeeze_of_isWord {w : List Char} (h : IsWord w) : squeeze w = w := by
  rw [squeeze, List.filter_eq_self]
  intro c hc
  have hblank := h c hc
  rw [Bool.not_eq_true', Bool.or_eq_false_iff, decide_eq_false_iff_not, decide_eq_false_iff_not]
  constructor <;> rintro rfl <;> exact absurd hblank (by decide)

/-- There are no line feeds in a spaced text. -/
theorem Spaced.ne_lineFeed {cs : List Char} (h : Spaced cs) {c : Char} (hc : c ∈ cs) :
    c ≠ '\n' := by
  rintro rfl
  exact absurd (h.space '\n' hc (by decide)) (by decide)

theorem Spaced.squeeze_eq {cs : List Char} (h : Spaced cs) :
    squeeze cs = cs.filter (· ≠ ' ') := by
  refine List.filter_congr fun c hc => ?_
  rw [decide_eq_false (h.ne_lineFeed hc), Bool.or_false, decide_not]

end Text

end Manuscript
