import Manuscript.Proofs.Text.Numeral
import Manuscript.Text.Blank
import Mathlib.Data.List.Chain

/-!
# Trimmed Texts and Words

What trimming a text and taking its words come to, said of the text itself and
not of the way it is passed through. A trimmed text is what stands between
blanks, and no blank stands at its own ends. The words of a text are the pieces
into which it falls when it is cut at every blank, apart from those that are
empty.

Words are collected with the word under way as an accumulator, so what is shown
of them is shown for any word under way. From then on a text is only ever cut:
a blank anywhere cuts the words of a text in two, and this is all that is needed
of them.

Words that are joined by single spaces can be told apart again. So a text made
from words has those words, and making it from its own words changes nothing.

## Main definitions

* `Text.IsTrimmed`: What is left of a text without the blanks at its ends.
* `Text.runs`: The longest pieces of a text in which there is no blank.
* `Text.unwords`: Words joined by single spaces.
* `Text.Spaced`: The only blanks are single spaces between other characters.

## Theorems

* `Text.trim_eq_iff`: Trimming leaves what is between the blanks and nothing else.
* `Text.words_eq_runs`: The words of a text are its runs.
* `Text.runs_append_blank`: A blank cuts the runs of a text in two.
* `Text.runs_unwords`: Words that are joined by spaces are the runs of the text.
* `Text.spaced_unwords`: Such a text is spaced.
-/

namespace Manuscript

/-- The digits come after the space and before the next-line control. -/
theorem isBlank_of_isDigit {c : Char} (h : c.isDigit = true) : isBlank c = false := by
  rcases Numeral.isDigit_iff.mp h with ⟨hzero, hnine⟩
  have hlow : 48 ≤ c.toNat := hzero
  have hhigh : c.toNat ≤ 57 := hnine
  rw [isBlank, CharRanges.contains, blankRanges]
  simp only [CharRanges.containsCode]
  rw [if_neg (by omega), if_neg (by omega), if_pos (by omega)]
  exact decide_eq_false (by omega)

namespace Text

/-! ### Trimming -/

/-- All characters are blanks. -/
def IsGap (cs : List Char) : Prop := ∀ c ∈ cs, isBlank c = true

/-- What is left of a text when the blanks at both of its ends are taken off. -/
structure IsTrimmed (cs t : List Char) : Prop where
  exists_gaps : ∃ before after, IsGap before ∧ IsGap after ∧ cs = before ++ t ++ after
  head : ∀ c, t.head? = some c → isBlank c = false
  last : ∀ c, t.getLast? = some c → isBlank c = false

theorem isGap_takeWhile (cs : List Char) : IsGap (cs.takeWhile isBlank) :=
  List.all_eq_true.mp List.all_takeWhile

theorem head?_dropWhile {cs : List Char} {c : Char} (h : (cs.dropWhile isBlank).head? = some c) :
    isBlank c = false := by
  have hhead := List.head?_dropWhile_not isBlank cs
  rw [h] at hhead
  exact hhead

/-- Blanks in front of a text that does not begin with one are all that is dropped. -/
theorem dropWhile_gap {before t : List Char} (hbefore : IsGap before)
    (ht : ∀ c, t.head? = some c → isBlank c = false) : (before ++ t).dropWhile isBlank = t := by
  rw [List.dropWhile_append_of_pos hbefore]
  cases t with
  | nil => rfl
  | cons c t => exact List.dropWhile_cons_of_neg (by rw [ht c rfl]; exact Bool.false_ne_true)

theorem exists_trimEnd (cs : List Char) :
    (∃ after, IsGap after ∧ cs = trimEnd cs ++ after) ∧
      ∀ c, (trimEnd cs).getLast? = some c → isBlank c = false := by
  constructor
  · refine ⟨(cs.reverse.takeWhile isBlank).reverse, ?_, ?_⟩
    · exact fun c hc => isGap_takeWhile cs.reverse c (List.mem_reverse.mp hc)
    · rw [trimEnd, ← List.reverse_append, List.takeWhile_append_dropWhile, List.reverse_reverse]
  · intro c hc
    rw [trimEnd, List.getLast?_reverse] at hc
    exact head?_dropWhile hc

theorem trimEnd_append_gap {t after : List Char} (hafter : IsGap after)
    (ht : ∀ c, t.getLast? = some c → isBlank c = false) : trimEnd (t ++ after) = t := by
  have hdrop : (after.reverse ++ t.reverse).dropWhile isBlank = t.reverse :=
    dropWhile_gap (fun c hc => hafter c (List.mem_reverse.mp hc))
      fun c hc => ht c (by rwa [← List.head?_reverse])
  rw [trimEnd, List.reverse_append, hdrop, List.reverse_reverse]

theorem isTrimmed_trim (cs : List Char) : IsTrimmed cs (trim cs) := by
  rcases exists_trimEnd (cs.dropWhile isBlank) with ⟨⟨after, hafter, hcs⟩, hlast⟩
  refine ⟨⟨cs.takeWhile isBlank, after, isGap_takeWhile cs, hafter, ?_⟩, ?_, hlast⟩
  · rw [trim, List.append_assoc, ← hcs, List.takeWhile_append_dropWhile]
  · -- The front of what is left is that of the text without its first blanks.
    intro c hc
    have hfront : (cs.dropWhile isBlank).head? = some c := by
      rw [hcs, List.head?_append, ← trim, hc, Option.some_or]
    exact head?_dropWhile hfront

theorem IsTrimmed.trim_eq {cs t : List Char} (h : IsTrimmed cs t) : trim cs = t := by
  rcases h.exists_gaps with ⟨before, after, hbefore, hafter, rfl⟩
  by_cases ht : t = []
  · -- Nothing is left, so all is dropped in front.
    have hall : IsGap (before ++ t ++ after) := by
      intro c hc
      rw [ht, List.append_nil] at hc
      exact (List.mem_append.mp hc).elim (hbefore c) (hafter c)
    have hnone := dropWhile_gap (t := []) hall fun _ hc => nomatch hc
    rw [List.append_nil] at hnone
    rw [trim, hnone, ht]
    rfl
  · rw [trim, List.append_assoc, dropWhile_gap hbefore, trimEnd_append_gap hafter h.last]
    intro c hc
    rw [List.head?_append, Option.or_of_isSome (List.isSome_head?.mpr ht)] at hc
    exact h.head c hc

theorem trim_eq_iff {cs t : List Char} : trim cs = t ↔ IsTrimmed cs t :=
  ⟨fun h => h ▸ isTrimmed_trim cs, IsTrimmed.trim_eq⟩

/-! ### Words -/

/-- No character is a blank. -/
def IsWord (w : List Char) : Prop := ∀ c ∈ w, isBlank c = false

theorem IsWord.isTrimmed {w before after : List Char} (h : IsWord w) (hbefore : IsGap before)
    (hafter : IsGap after) : IsTrimmed (before ++ w ++ after) w where
  exists_gaps := ⟨before, after, hbefore, hafter, rfl⟩
  head c hc := h c (List.mem_of_head? hc)
  last c hc := h c (List.mem_of_getLast? hc)

/-- The longest pieces of a text in which there is no blank. -/
def runs (cs : List Char) : List (List Char) := (cs.splitOnP isBlank).filter fun w => !w.isEmpty

theorem runs_append_blank (cs ds : List Char) {c : Char} (hc : isBlank c = true) :
    runs (cs ++ c :: ds) = runs cs ++ runs ds := by
  rw [runs, List.splitOnP_append_cons cs ds hc, List.filter_append]
  rfl

theorem runs_cons_blank (ds : List Char) {c : Char} (hc : isBlank c = true) :
    runs (c :: ds) = runs ds :=
  runs_append_blank [] ds hc

theorem runs_of_isWord {w : List Char} (h : IsWord w) (hne : w ≠ []) : runs w = [w] := by
  rw [runs, List.splitOnP_eq_singleton h]
  exact List.filter_cons_of_pos (by simpa using hne)

/-- The word under way goes on up to the next blank. -/
theorem wordsFrom_eq_runs (cs : List Char) {word : List Char} (hword : IsWord word) :
    wordsFrom word cs = runs (word.reverse ++ cs) := by
  have hreverse : IsWord word.reverse := fun c hc => hword c (List.mem_reverse.mp hc)
  induction cs generalizing word with
  | nil =>
      cases word with
      | nil => rfl
      | cons d word =>
          rw [List.append_nil, runs_of_isWord hreverse (List.reverse_ne_nil_iff.mpr (by simp))]
          rfl
  | cons c cs ih =>
      have hnil : wordsFrom [] cs = runs cs :=
        ih (fun _ hc => absurd hc List.not_mem_nil) fun _ hc => absurd hc List.not_mem_nil
      cases hc : isBlank c with
      | true =>
          rw [runs_append_blank _ _ hc]
          cases word with
          | nil =>
              rw [wordsFrom, if_pos hc]
              exact hnil
          | cons d word =>
              rw [wordsFrom, if_pos hc, if_neg (by simp), hnil,
                runs_of_isWord hreverse (List.reverse_ne_nil_iff.mpr (by simp))]
              rfl
      | false =>
          have hmore : IsWord (c :: word) := List.forall_mem_cons.mpr ⟨hc, hword⟩
          rw [wordsFrom, if_neg (by rw [hc]; exact Bool.false_ne_true),
            ih hmore fun d hd => hmore d (List.mem_reverse.mp hd), List.reverse_cons,
            List.append_assoc]
          rfl

theorem words_eq_runs (cs : List Char) : words cs = runs cs :=
  wordsFrom_eq_runs cs fun _ hc => absurd hc List.not_mem_nil

/-- All pieces between blanks are words, and the empty ones are left out. -/
theorem isWord_of_mem_splitOnP {cs w : List Char} (h : w ∈ cs.splitOnP isBlank) : IsWord w := by
  induction cs generalizing w with
  | nil =>
      rw [List.splitOnP_nil, List.mem_singleton] at h
      rw [h]
      exact fun _ hc => absurd hc List.not_mem_nil
  | cons c cs ih =>
      rw [List.splitOnP_cons_eq_if_modifyHead] at h
      split at h
      case isTrue =>
        rcases List.mem_cons.mp h with rfl | hw
        · exact fun _ hc => absurd hc List.not_mem_nil
        · exact ih hw
      case isFalse hc =>
        -- The character belongs to the first of the pieces.
        cases hpieces : cs.splitOnP isBlank with
        | nil => rw [hpieces] at h; exact absurd h List.not_mem_nil
        | cons first rest =>
            rw [hpieces, List.modifyHead_cons] at h
            rw [hpieces] at ih
            rcases List.mem_cons.mp h with rfl | hw
            · exact List.forall_mem_cons.mpr ⟨Bool.eq_false_iff.mpr hc, ih List.mem_cons_self⟩
            · exact ih (List.mem_cons_of_mem first hw)

theorem isWord_of_mem_runs {cs w : List Char} (h : w ∈ runs cs) : IsWord w ∧ w ≠ [] := by
  rcases List.mem_filter.mp h with ⟨hw, hne⟩
  exact ⟨isWord_of_mem_splitOnP hw, by simpa using hne⟩

theorem runs_of_isGap {cs : List Char} (h : IsGap cs) : runs cs = [] := by
  induction cs with
  | nil => rfl
  | cons c cs ih =>
      rw [IsGap, List.forall_mem_cons] at h
      rw [runs_cons_blank cs h.1, ih h.2]

/-! ### Words joined by spaces -/

/-- Words joined by single spaces. -/
def unwords (ws : List (List Char)) : List Char := [' '].intercalate ws

theorem unwords_cons_cons (w v : List Char) (ws : List (List Char)) :
    unwords (w :: v :: ws) = w ++ ' ' :: unwords (v :: ws) := by
  rw [unwords, List.intercalate_cons_cons, List.append_assoc]
  rfl

theorem runs_unwords {ws : List (List Char)} (h : ∀ w ∈ ws, IsWord w ∧ w ≠ []) :
    runs (unwords ws) = ws := by
  induction ws with
  | nil => rfl
  | cons w ws ih =>
      rcases h w List.mem_cons_self with ⟨hw, hne⟩
      cases ws with
      | nil => rw [unwords, List.intercalate_singleton, runs_of_isWord hw hne]
      | cons v ws =>
          rw [unwords_cons_cons, runs_append_blank _ _ (by decide), runs_of_isWord hw hne,
            ih fun u hu => h u (List.mem_cons_of_mem w hu)]
          rfl

/-- A text whose only blanks are single spaces between other characters. -/
structure Spaced (cs : List Char) : Prop where
  head : ∀ c, cs.head? = some c → isBlank c = false
  last : ∀ c, cs.getLast? = some c → isBlank c = false
  single : cs.IsChain fun c d => isBlank c = false ∨ isBlank d = false
  space : ∀ c ∈ cs, isBlank c = true → c = ' '

theorem IsWord.spaced {w : List Char} (h : IsWord w) : Spaced w where
  head c hc := h c (List.mem_of_head? hc)
  last c hc := h c (List.mem_of_getLast? hc)
  single := by
    induction w with
    | nil => exact .nil
    | cons c w ih =>
        rw [List.isChain_cons]
        rw [IsWord, List.forall_mem_cons] at h
        exact ⟨fun _ _ => .inl h.1, ih h.2⟩
  space c hc hblank := absurd hblank (by rw [h c hc]; exact Bool.false_ne_true)

theorem Spaced.append_space {l r : List Char} (hl : Spaced l) (hr : Spaced r) (hlne : l ≠ [])
    (hrne : r ≠ []) : Spaced (l ++ ' ' :: r) where
  head c hc := by
    rw [List.head?_append, Option.or_of_isSome (List.isSome_head?.mpr hlne)] at hc
    exact hl.head c hc
  last c hc := by
    have hlast := List.getLast?_eq_some_getLast hrne
    rw [List.getLast?_append, List.getLast?_cons_of_ne_nil hrne, hlast, Option.some_or] at hc
    exact hr.last c (hlast.trans hc)
  single := by
    rw [List.isChain_append, List.isChain_cons]
    exact ⟨hl.single, ⟨fun d hd => .inr (hr.head d hd), hr.single⟩,
      fun c hc _ _ => .inl (hl.last c hc)⟩
  space c hc hblank := by
    rcases List.mem_append.mp hc with hcl | hcr
    · exact hl.space c hcl hblank
    · exact (List.mem_cons.mp hcr).elim id fun h => hr.space c h hblank

theorem spaced_unwords {ws : List (List Char)} (h : ∀ w ∈ ws, IsWord w ∧ w ≠ []) :
    Spaced (unwords ws) := by
  induction ws with
  | nil => exact IsWord.spaced fun _ hc => absurd hc List.not_mem_nil
  | cons w ws ih =>
      rcases h w List.mem_cons_self with ⟨hw, hne⟩
      cases ws with
      | nil =>
          rw [unwords, List.intercalate_singleton]
          exact hw.spaced
      | cons v ws =>
          have hrest : ∀ u ∈ v :: ws, IsWord u ∧ u ≠ [] :=
            fun u hu => h u (List.mem_cons_of_mem w hu)
          rw [unwords_cons_cons]
          refine hw.spaced.append_space (ih hrest) hne fun hnil => ?_
          have hruns := runs_unwords hrest
          rw [hnil] at hruns
          cases hruns

theorem toList_normalizeSpace (s : String) :
    (normalizeSpace s).toList = unwords (runs s.toList) := by
  rw [normalizeSpace, String.toList_intercalate, List.map_map, words_eq_runs]
  exact congrArg [' '].intercalate (List.map_id'' (fun _ => String.toList_ofList) _)

end Text

end Manuscript
