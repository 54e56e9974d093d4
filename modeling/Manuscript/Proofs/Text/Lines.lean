import Manuscript.Text.Lines

/-!
# Ends of Lines

What removing blanks at the ends of lines does to a text. A text is `Tidy` if
no blank stands directly before a line feed or at the end. Nothing is removed
from such a text, apart from the question whether its last line is ended.

Being tidy is a question about neighbours. So it can be shown of a text in
pieces: two tidy texts make up a tidy text, and a blank may be put in front of
any text that does not start with a line feed.

## Main definitions

* `Text.Tidy`: No line of a text ends in a blank.
* `Text.EndsInSpaces`: Lines end in no blanks but spaces.

## Theorems

* `Text.Tidy.append`: Tidy texts after each other are tidy.
* `Text.trimLines_of_tidy`: A tidy text stays as it is.
* `Text.lines_unlines`: Lines that are put together can be told apart again.
-/

namespace Manuscript

namespace Text

/-- No blank other than a line feed stands directly before a line feed or at the end. -/
def Tidy : List Char → Prop
  | [] => True
  | c :: cs => (isBlank c = true → c = '\n' ∨ ∃ d rest, cs = d :: rest ∧ d ≠ '\n') ∧ Tidy cs

/-- Where a line of the text ends in a blank, this is a space. -/
def EndsInSpaces (cs : List Char) : Prop :=
  ∀ line ∈ lines cs, ∀ c, line.getLast? = some c → isBlank c = true → c = ' '

theorem endsInSpaces_iff {cs : List Char} : EndsInSpaces cs ↔
    ∀ line ∈ lines cs, line.getLast?.all (fun c => !isBlank c || decide (c = ' ')) = true := by
  refine forall_congr' fun line => forall_congr' fun _ => ?_
  cases line.getLast? with
  | none => simp
  | some c => cases hc : isBlank c <;> simp [hc]

instance (cs : List Char) : Decidable (EndsInSpaces cs) := decidable_of_iff' _ endsInSpaces_iff

namespace Tidy

theorem nil : Tidy [] := trivial

theorem cons {c : Char} {cs : List Char} (hc : isBlank c = false) (h : Tidy cs) : Tidy (c :: cs) :=
  ⟨fun hb => absurd hb (by rw [hc]; exact Bool.false_ne_true), h⟩

theorem lineFeed {cs : List Char} (h : Tidy cs) : Tidy ('\n' :: cs) := ⟨fun _ => .inl rfl, h⟩

/-- Any character may stand before one that is no line feed. -/
theorem before (c : Char) {d : Char} {cs : List Char} (hd : d ≠ '\n') (h : Tidy (d :: cs)) :
    Tidy (c :: d :: cs) :=
  ⟨fun _ => .inr ⟨d, cs, rfl, hd⟩, h⟩

theorem append {l r : List Char} (hl : Tidy l) (hr : Tidy r) : Tidy (l ++ r) := by
  induction l with
  | nil => exact hr
  | cons c cs ih =>
      refine ⟨fun hb => ?_, ih hl.2⟩
      rcases hl.1 hb with hc | ⟨d, rest, rfl, hd⟩
      · exact .inl hc
      · exact .inr ⟨d, rest ++ r, rfl, hd⟩

/-- No blank but a line feed stands at the end. -/
theorem last {cs : List Char} (h : Tidy cs) {c : Char} (hc : cs.getLast? = some c)
    (hblank : isBlank c = true) : c = '\n' := by
  induction cs with
  | nil => cases hc
  | cons d cs ih =>
      cases cs with
      | nil =>
          cases hc
          rcases h.1 hblank with hfeed | ⟨_, _, heq, -⟩
          · exact hfeed
          · cases heq
      | cons e cs => exact ih h.2 hc

/-- A text without blanks is tidy. -/
theorem of_all {cs : List Char} (h : ∀ c ∈ cs, isBlank c = false) : Tidy cs := by
  induction cs with
  | nil => exact nil
  | cons c cs ih =>
      exact cons (h c List.mem_cons_self) (ih fun d hd => h d (List.mem_cons_of_mem c hd))

end Tidy

theorem trimEnd_reverse {line : List Char} (h : ∀ c, line.head? = some c → isBlank c = false) :
    trimEnd line.reverse = line.reverse := by
  rw [trimEnd, List.reverse_reverse]
  cases line with
  | nil => rfl
  | cons c cs => rw [List.dropWhile_cons_of_neg (by rw [h c rfl]; exact Bool.false_ne_true)]

/-- The line under way may end in a blank as long as the text goes on in it. -/
theorem unlines_trimEnd_linesFrom {cs : List Char} (h : Tidy cs) (line : List Char)
    (hline : ∀ c, line.head? = some c → isBlank c = true → ∃ d rest, cs = d :: rest ∧ d ≠ '\n')
    (hend : ∀ c, (line.reverse ++ cs).getLast? = some c → c = '\n') :
    unlines ((linesFrom line cs).map trimEnd) = line.reverse ++ cs := by
  induction cs generalizing line with
  | nil =>
      cases line with
      | nil => rfl
      | cons c rest =>
          -- The text would end in a line feed, and a blank cannot be the end of it.
          have hc : c = '\n' := hend c (by simp)
          rcases hline c rfl (hc ▸ rfl) with ⟨_, _, heq, -⟩
          cases heq
  | cons c cs ih =>
      rw [linesFrom]
      split
      case isTrue hc =>
        have hlast : ∀ b, line.head? = some b → isBlank b = false := by
          intro b hb
          cases hblank : isBlank b with
          | false => rfl
          | true =>
              rcases hline b hb hblank with ⟨d, rest, heq, hd⟩
              cases heq
              exact absurd hc hd
        have hrest := ih h.2 [] (fun _ hb => by cases hb) fun b hb => hend b (by
          rw [List.reverse_nil, List.nil_append] at hb
          rw [List.getLast?_append, List.getLast?_cons, hb]
          rfl)
        rw [unlines] at hrest
        rw [List.map_cons, unlines, List.flatMap_cons, hrest, trimEnd_reverse hlast, hc,
          List.append_assoc]
        rfl
      case isFalse hc =>
        rw [ih h.2 (c :: line) ?_ ?_]
        · rw [List.reverse_cons, List.append_assoc, List.cons_append, List.nil_append]
        · intro b hb hblank
          cases hb
          exact (h.1 hblank).resolve_left hc
        · intro b hb
          rw [List.reverse_cons, List.append_assoc] at hb
          exact hend b hb

/-- Nothing is removed from a tidy text whose last line is ended. -/
theorem trimLines_of_tidy {cs : List Char} (h : Tidy cs)
    (hend : ∀ c, cs.getLast? = some c → c = '\n') : trimLines cs = cs :=
  unlines_trimEnd_linesFrom h [] (fun _ hc => by cases hc) hend

/-! ### Lines that are put together -/

theorem linesFrom_append_lineFeed {l : List Char} (hl : '\n' ∉ l) (line cs : List Char) :
    linesFrom line (l ++ '\n' :: cs) = (line.reverse ++ l) :: lines cs := by
  induction l generalizing line with
  | nil => rw [List.nil_append, linesFrom, if_pos rfl, List.append_nil, lines]
  | cons c l ih =>
      rw [List.mem_cons, not_or] at hl
      rw [List.cons_append, linesFrom, if_neg (Ne.symm hl.1), ih hl.2, List.reverse_cons,
        List.append_assoc, List.singleton_append]

/-- Lines without line feeds are the lines of their text. -/
theorem lines_unlines {ls : List (List Char)} (h : ∀ l ∈ ls, '\n' ∉ l) :
    lines (unlines ls) = ls := by
  induction ls with
  | nil => rfl
  | cons l ls ih =>
      rw [List.forall_mem_cons] at h
      rw [unlines, List.flatMap_cons, ← unlines, List.append_assoc, List.singleton_append, lines,
        linesFrom_append_lineFeed h.1, ih h.2]
      rfl

theorem intercalate_lineFeed {ls : List (List Char)} (h : ls ≠ []) :
    ['\n'].intercalate ls ++ ['\n'] = unlines ls := by
  induction ls with
  | nil => exact absurd rfl h
  | cons l ls ih =>
      cases ls with
      | nil => rw [List.intercalate_singleton, unlines, List.flatMap_singleton]
      | cons next ls =>
          rw [List.intercalate_cons_cons, List.append_assoc, ih (List.cons_ne_nil next ls)]
          rfl

end Text

end Manuscript
