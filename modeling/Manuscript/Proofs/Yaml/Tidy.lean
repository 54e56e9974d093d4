import Manuscript.Proofs.Text.Blank
import Manuscript.Proofs.Text.Lines
import Manuscript.Proofs.Yaml.Printed
import Manuscript.Proofs.Yaml.Scalar.Escape
import Manuscript.Proofs.Yaml.Scalar.Literal

/-!
# Ends of Printed Lines

Where the lines of printed data end. In quotes and after a short name a line
ends in a character of the format. Only a text without quotes ends its line, or
its lines, itself. So printed data is tidy if the texts in it are, as far as
they end lines at all.

Spaces need no condition. A text that has a space at the end of a line is
written in quotes, where the space is inside. The other blanks are taken for
ordinary characters when a style is chosen, and they are the ones that have to
be kept away from the ends.

## Main definitions

* `Data.texts`: The texts that end lines when data is printed.
* `Yaml.TidyLines`: Lines that end in no blanks, the last of them too.

## Theorems

* `Yaml.tidy_writeScalar`: A scalar is tidy if its text ends lines in spaces only.
* `Yaml.tidyLines_printValue`: So is data.
* `Yaml.trimLines_print`: Printed data stays as it is.
-/

namespace Manuscript

/-! ### What ends lines -/

namespace Data

mutual

/-- The texts among the values, and the names that are too long to stand before a colon. -/
def texts : Data → List String
  | .text s => [s]
  | .list items => textsOfItems items
  | .record fields => textsOfFields fields
  | _ => []

def textsOfItems : List Data → List String
  | [] => []
  | item :: rest => item.texts ++ textsOfItems rest

def textsOfFields : List (String × Data) → List String
  | [] => []
  | (name, value) :: rest =>
    (if Yaml.isShortKey name then [] else [name]) ++ value.texts ++ textsOfFields rest

end

end Data

namespace Yaml

open Text

/-! ### Scalars -/

theorem isBlank_of_isBreak {c : Char} (h : isBreak c = true) : isBlank c = true := by
  unfold isBreak at h
  simp only [Bool.or_eq_true, decide_eq_true_eq] at h
  rcases h with (((rfl | rfl) | rfl) | rfl) | rfl <;> rfl

/-- Where no space ends a line, no line ends in a blank at all. -/
theorem tidy_of_linesFrom {cs line : List Char}
    (h : ∀ l ∈ linesFrom line cs, ∀ c, l.getLast? = some c → isBlank c = true → c = ' ')
    (hbreak : hasSpaceBreak cs = false) (hlast : cs.getLast? ≠ some ' ') : Tidy cs := by
  induction cs generalizing line with
  | nil => exact Tidy.nil
  | cons c cs ih =>
      have htail := hasPair_tail hbreak
      by_cases hc : c = '\n'
      · subst hc
        have hlines : ∀ l ∈ linesFrom [] cs, ∀ c,
            l.getLast? = some c → isBlank c = true → c = ' ' := by
          intro l hl
          refine h l ?_
          rw [linesFrom, if_pos rfl]
          exact List.mem_cons_of_mem _ hl
        exact Tidy.lineFeed (ih hlines htail (getLast?_tail_ne hlast))
      · have hsame : linesFrom line (c :: cs) = linesFrom (c :: line) cs := by
          rw [linesFrom, if_neg hc]
        rw [hsame] at h
        refine ⟨fun hb => .inr ?_, ih h htail (getLast?_tail_ne hlast)⟩
        -- Were this the end of a line, the line would end in a space.
        have hspace : ∀ l, (c :: line).reverse :: l = linesFrom (c :: line) cs → c = ' ' := by
          intro l heq
          refine h (c :: line).reverse (heq ▸ List.mem_cons_self) c ?_ hb
          rw [List.getLast?_reverse]
          rfl
        cases cs with
        | nil =>
            rw [hspace [] rfl] at hlast
            exact absurd rfl hlast
        | cons d rest =>
            refine ⟨d, rest, rfl, ?_⟩
            rintro rfl
            rw [hspace _ rfl] at hbreak
            cases hbreak

theorem tidy_of_endsInSpaces {cs : List Char} (h : EndsInSpaces cs)
    (hbreak : hasSpaceBreak cs = false) (hlast : cs.getLast? ≠ some ' ') : Tidy cs :=
  tidy_of_linesFrom h hbreak hlast

/-- A text without line feeds is tidy before a character that is no blank. -/
theorem tidy_snoc {cs : List Char} (h : '\n' ∉ cs) {c : Char} (hc : isBlank c = false) :
    Tidy (cs ++ [c]) := by
  have hne : c ≠ '\n' := by
    rintro rfl
    cases hc
  induction cs with
  | nil => exact Tidy.cons hc Tidy.nil
  | cons d rest ih =>
      rw [List.mem_cons, not_or] at h
      have htail := ih h.2
      cases rest with
      | nil => exact Tidy.before d hne htail
      | cons e more => exact Tidy.before d (fun heq => h.2 (heq ▸ List.mem_cons_self)) htail

theorem not_mem_indentation {c : Char} (hc : c ≠ ' ') (column : Nat) : c ∉ indentation column :=
  fun h => hc (List.eq_of_mem_replicate h)

theorem not_mem_writeSingle {cs : List Char} (h : '\n' ∉ cs) (column : Nat) (afterBreak : Bool) :
    '\n' ∉ writeSingle column afterBreak cs := by
  have hindent (b : Bool) : '\n' ∉ if b then indentation column else [] := by
    cases b
    · exact List.not_mem_nil
    · exact not_mem_indentation (by decide) column
  induction cs generalizing afterBreak with
  | nil => exact hindent afterBreak
  | cons c cs ih =>
      rw [List.mem_cons, not_or] at h
      have hchar : '\n' ∉ if c = '\'' then ['\'', '\''] else [c] := by
        split
        · decide
        · exact fun hmem => h.1 (List.mem_singleton.mp hmem)
      rw [writeSingle]
      split
      · exact fun hmem => (List.mem_cons.mp hmem).elim h.1 (ih h.2 true)
      · rw [List.mem_append, List.mem_append, not_or, not_or]
        exact ⟨⟨hindent afterBreak, hchar⟩, ih h.2 false⟩

theorem lineFeed_not_mem_writeEscaped (c : Char) : '\n' ∉ writeEscaped c := by
  intro hmem
  cases ((escapeOf_writeEscaped c).writable '\n' hmem).2

/-- A scalar in any style but the literal one is on one line, as far as line feeds go. -/
theorem lineFeed_not_mem_writeScalar (column : Nat) {s : String} (h : '\n' ∉ s.toList) :
    '\n' ∉ writeScalar column s := by
  have hsuits := suits_styleOf s
  unfold writeScalar
  generalize styleOf s = style at hsuits ⊢
  cases hsuits with
  | plain => exact h
  | singleQuoted =>
      have hinner := not_mem_writeSingle h column false
      simp [writeStyled, hinner]
  | literal hfeed => exact absurd hfeed h
  | doubleQuoted =>
      have hinner : '\n' ∉ s.toList.flatMap writeEscaped := by
        intro hmem
        rcases List.mem_flatMap.mp hmem with ⟨c, -, hc⟩
        exact lineFeed_not_mem_writeEscaped c hc
      simp [writeStyled, hinner]

theorem tidy_indentation {c : Char} (hc : c ≠ '\n') {cs : List Char} (h : Tidy (c :: cs))
    (column : Nat) : Tidy (indentation column ++ c :: cs) := by
  induction column with
  | zero => exact h
  | succ k ih =>
      rw [indentation, List.replicate_succ, List.cons_append, ← indentation]
      cases k with
      | zero => exact Tidy.before ' ' hc h
      | succ k => exact Tidy.before ' ' (by decide) ih

theorem writeLines_head (column : Nat) (atStart : Bool) {c : Char} (hc : c ≠ '\n')
    (cs : List Char) : ∃ d ds, writeLines column atStart (c :: cs) = d :: ds ∧ d ≠ '\n' := by
  rw [writeLines]
  split
  · exact ⟨c, _, rfl, hc⟩
  · cases atStart with
    | false => exact ⟨c, _, rfl, hc⟩
    | true =>
        cases column with
        | zero => exact ⟨c, _, rfl, hc⟩
        | succ k => exact ⟨' ', _, rfl, by decide⟩

theorem tidy_writeLines {cs : List Char} (h : Tidy cs) (column : Nat) (atStart : Bool) :
    Tidy (writeLines column atStart cs) := by
  induction cs generalizing atStart with
  | nil => exact Tidy.nil
  | cons c cs ih =>
      have hcons (b : Bool) : Tidy (c :: writeLines column b cs) := by
        refine ⟨fun hblank => ?_, ih h.2 b⟩
        rcases h.1 hblank with hfeed | ⟨d, rest, rfl, hd⟩
        · exact .inl hfeed
        · exact .inr (writeLines_head column b hd rest)
      rw [writeLines]
      split
      case isTrue => exact hcons true
      case isFalse hbreak =>
        cases atStart with
        | false => exact hcons false
        | true =>
            have hfeed : c ≠ '\n' := ne_lineFeed_of_unbroken (by simpa using hbreak)
            exact tidy_indentation hfeed (hcons false) column

theorem hasSpaceBreak_of_unbroken {cs : List Char} (h : ∀ c ∈ cs, isBreak c = false) :
    hasSpaceBreak cs = false := by
  unfold hasSpaceBreak
  induction cs with
  | nil => rfl
  | cons c cs ih =>
      cases cs with
      | nil => rfl
      | cons d cs =>
          rw [hasPair, ih fun e he => h e (List.mem_cons_of_mem c he),
            h d (List.mem_cons_of_mem c List.mem_cons_self), Bool.and_false]
          rfl

theorem tidy_literalHeader (cs : List Char) : Tidy (literalHeader cs) := by
  rw [literalHeader_eq]
  refine Tidy.of_all fun c hc => ?_
  rw [List.mem_cons, List.mem_append] at hc
  rcases hc with rfl | hdigit | hsign
  · rfl
  · split at hdigit
    · rw [List.mem_singleton.mp hdigit]
      rfl
    · exact absurd hdigit List.not_mem_nil
  · revert hsign
    cases chompingOf cs
    · exact fun hsign => List.mem_singleton.mp hsign ▸ rfl
    · exact fun hsign => absurd hsign List.not_mem_nil
    · exact fun hsign => List.mem_singleton.mp hsign ▸ rfl

theorem tidy_writeScalar (column : Nat) {s : String} (h : EndsInSpaces s.toList) :
    Tidy (writeScalar column s) := by
  have hsuits := suits_styleOf s
  unfold writeScalar
  generalize styleOf s = style at hsuits ⊢
  cases hsuits with
  | plain hneeds hallows =>
      have hplain := plainText_of_allowsPlain hallows
      exact tidy_of_endsInSpaces h (hasSpaceBreak_of_unbroken hplain.unbroken) hplain.last
  | singleQuoted hfeed =>
      have hinner : '\n' ∉ '\'' :: writeSingle column false s.toList := by
        simp [not_mem_writeSingle hfeed]
      exact tidy_snoc hinner rfl
  | literal hfeed hallows =>
      unfold allowsLiteral at hallows
      simp only [Bool.and_eq_true, Bool.not_eq_true', decide_eq_true_eq] at hallows
      have htext : Tidy s.toList := tidy_of_endsInSpaces h hallows.1.2 hallows.2
      exact (tidy_literalHeader s.toList).append (tidy_writeLines htext column true).lineFeed
  | doubleQuoted =>
      have hinner : '\n' ∉ '"' :: s.toList.flatMap writeEscaped := by
        simp [lineFeed_not_mem_writeEscaped]
      exact tidy_snoc hinner rfl

/-! ### Values -/

/-- Lines that end in no blanks, the last of them too. -/
structure TidyLines (cs : List Char) : Prop where
  tidy : Tidy cs
  ended : cs.getLast? = some '\n'

namespace TidyLines

theorem endLine {cs : List Char} (h : Tidy cs) : TidyLines (endLine cs) := by
  rw [Yaml.endLine]
  split
  case isTrue hbreak =>
    cases hlast : cs.getLast? with
    | none =>
        rw [hlast] at hbreak
        cases hbreak
    | some c =>
        rw [hlast] at hbreak
        exact ⟨h, hlast.trans (congrArg some (h.last hlast (isBlank_of_isBreak hbreak)))⟩
  case isFalse => exact ⟨h.append (Tidy.lineFeed Tidy.nil), List.getLast?_concat⟩

theorem append {pre cs : List Char} (h : TidyLines cs) (hpre : Tidy pre) :
    TidyLines (pre ++ cs) where
  tidy := hpre.append h.tidy
  ended := by rw [List.getLast?_append, h.ended, Option.some_or]

theorem prepend {c : Char} (hc : isBlank c = false) {cs : List Char} (h : TidyLines cs) :
    TidyLines (c :: cs) :=
  h.append (Tidy.cons hc Tidy.nil)

theorem prependFeed {cs : List Char} (h : TidyLines cs) : TidyLines ('\n' :: cs) :=
  h.append (Tidy.lineFeed Tidy.nil)

/-- Any character may be put before a word. -/
theorem cons (c : Char) {cs : List Char} (h : TidyLines cs) (hword : Starts cs) :
    TidyLines (c :: cs) := by
  rcases hword with ⟨d, rest, rfl, hd⟩
  exact ⟨Tidy.before c (ne_lineFeed_of_unbroken hd.unbroken) h.tidy, h.ended⟩

theorem indent (column : Nat) {cs : List Char} (h : TidyLines cs) (hword : Starts cs) :
    TidyLines (indentation column ++ cs) := by
  rcases hword with ⟨d, rest, rfl, hd⟩
  refine ⟨tidy_indentation (ne_lineFeed_of_unbroken hd.unbroken) h.tidy column, ?_⟩
  rw [List.getLast?_append, h.ended, Option.some_or]

end TidyLines

theorem tidyLines_printLeaf (column : Nat) {d : Data}
    (htexts : ∀ s ∈ d.texts, EndsInSpaces s.toList) (hnumerals : ∀ n ∈ d.numerals, IsNumeral n) :
    TidyLines (printLeaf column d) := by
  have hword (cs : List Char) (h : ∀ c ∈ cs, isBlank c = false) : TidyLines (endLine cs) :=
    TidyLines.endLine (Tidy.of_all h)
  cases d with
  | null => exact hword _ (forall_mem_of_all (by decide))
  | flag b => cases b <;> exact hword _ (forall_mem_of_all (by decide))
  | number n =>
      exact hword _ fun c hc => isBlank_of_isDigit ((hnumerals n List.mem_cons_self).digits c hc)
  | text s => exact TidyLines.endLine (tidy_writeScalar column (htexts s List.mem_cons_self))
  | list items => exact hword _ (forall_mem_of_all (by decide))
  | record fields => exact hword _ (forall_mem_of_all (by decide))

theorem lineFeed_not_mem_of_isShortKey {name : String} (h : isShortKey name = true) :
    '\n' ∉ name.toList := by
  intro hfeed
  have hbreak : name.toList.any isBreak = true := List.any_eq_true.mpr ⟨'\n', hfeed, rfl⟩
  rw [isShortKey, hbreak] at h
  cases h

theorem tidyLines_shortField {column : Nat} {name : String} {value : Data}
    (hname : isShortKey name = true) (hvalue : TidyLines (printFieldValue column value)) :
    TidyLines (printField column (name, value)) := by
  have hkey : Tidy (writeScalar (column + 2) name ++ [':']) :=
    tidy_snoc (lineFeed_not_mem_writeScalar _ (lineFeed_not_mem_of_isShortKey hname)) rfl
  rw [printField, if_pos hname, List.append_cons]
  exact hvalue.append hkey

theorem tidyLines_longField {column : Nat} {name : String} {value : Data}
    (hname : isShortKey name = false) (htext : EndsInSpaces name.toList)
    (hvalue : TidyLines (printValue (column + 2) value))
    (hword : Starts (printValue (column + 2) value)) :
    TidyLines (printField column (name, value)) := by
  have hkey : TidyLines ('?' :: ' ' :: endLine (writeScalar (column + 2) name)) :=
    ((TidyLines.endLine (tidy_writeScalar _ htext)).cons ' '
      (endLine_starts (writeScalar_starts _ name))).prepend rfl
  have hline : TidyLines (indentation column ++ ':' :: ' ' :: printValue (column + 2) value) :=
    ((hvalue.cons ' ' hword).prepend rfl).indent column
      ⟨':', _, rfl, by decide⟩
  rw [printField, if_neg (by rw [hname]; exact Bool.false_ne_true), List.append_assoc]
  exact hline.append hkey.tidy

mutual

theorem tidyLines_printValue (column : Nat) : ∀ (d : Data)
    (_ : ∀ s ∈ d.texts, EndsInSpaces s.toList) (_ : ∀ n ∈ d.numerals, IsNumeral n),
    TidyLines (printValue column d)
  | .list (item :: rest), htexts, hnumerals =>
      tidyLines_printItems column 0 (item :: rest) (List.cons_ne_nil item rest) htexts hnumerals
  | .record (field :: rest), htexts, hnumerals =>
      tidyLines_printFields column 0 (field :: rest) (List.cons_ne_nil field rest) htexts hnumerals
  | .null, htexts, hnumerals | .flag _, htexts, hnumerals | .number _, htexts, hnumerals
  | .text _, htexts, hnumerals | .list [], htexts, hnumerals | .record [], htexts, hnumerals =>
      tidyLines_printLeaf column htexts hnumerals

theorem tidyLines_printFieldValue (column : Nat) : ∀ (d : Data)
    (_ : ∀ s ∈ d.texts, EndsInSpaces s.toList) (_ : ∀ n ∈ d.numerals, IsNumeral n),
    TidyLines (printFieldValue column d)
  | .list (item :: rest), htexts, hnumerals =>
      (tidyLines_printItems column column (item :: rest) (List.cons_ne_nil item rest) htexts
        hnumerals).prependFeed
  | .record (field :: rest), htexts, hnumerals =>
      (tidyLines_printFields (column + 2) (column + 2) (field :: rest) (List.cons_ne_nil field rest)
        htexts hnumerals).prependFeed
  | .null, htexts, hnumerals | .flag _, htexts, hnumerals | .number _, htexts, hnumerals
  | .text _, htexts, hnumerals | .list [], htexts, hnumerals | .record [], htexts, hnumerals =>
      (tidyLines_printLeaf (column + 2) htexts hnumerals).cons ' ' (printLeaf_starts _ hnumerals)

theorem tidyLines_printItems (column start : Nat) : ∀ (items : List Data) (_ : items ≠ [])
    (_ : ∀ s ∈ Data.textsOfItems items, EndsInSpaces s.toList)
    (_ : ∀ n ∈ Data.numeralsOfItems items, IsNumeral n),
    TidyLines (printItems column (indentation start) items)
  | [], hne, _, _ => absurd rfl hne
  | item :: rest, _, htexts, hnumerals => by
      have hnumeral : ∀ n ∈ item.numerals, IsNumeral n :=
        fun n hn => hnumerals n (List.mem_append_left _ hn)
      have hitem := tidyLines_printValue (column + 2) item
        (fun s hs => htexts s (List.mem_append_left _ hs)) hnumeral
      have hline : TidyLines (indentation start ++ '-' :: ' ' :: printValue (column + 2) item) :=
        ((hitem.cons ' ' (printValue_starts _ hnumeral)).prepend rfl).indent start
          ⟨'-', _, rfl, by decide⟩
      rw [printItems]
      by_cases hrest : rest = []
      · rw [hrest, printItems, List.append_nil]
        exact hline
      · exact (tidyLines_printItems column column rest hrest
          (fun s hs => htexts s (List.mem_append_right _ hs))
          (fun n hn => hnumerals n (List.mem_append_right _ hn))).append hline.tidy

theorem tidyLines_printFields (column start : Nat) : ∀ (fields : List (String × Data))
    (_ : fields ≠ []) (_ : ∀ s ∈ Data.textsOfFields fields, EndsInSpaces s.toList)
    (_ : ∀ n ∈ Data.numeralsOfFields fields, IsNumeral n),
    TidyLines (printFields column (indentation start) fields)
  | [], hne, _, _ => absurd rfl hne
  | (name, value) :: rest, _, htexts, hnumerals => by
      have hnumeral : ∀ n ∈ value.numerals, IsNumeral n :=
        fun n hn => hnumerals n (List.mem_append_left _ hn)
      have htext : ∀ s ∈ value.texts, EndsInSpaces s.toList :=
        fun s hs => htexts s (List.mem_append_left _ (List.mem_append_right _ hs))
      have hfield : TidyLines (printField column (name, value)) := by
        cases hname : isShortKey name with
        | true =>
            exact tidyLines_shortField hname (tidyLines_printFieldValue column value htext hnumeral)
        | false =>
            have hkey : EndsInSpaces name.toList := htexts name <| by
              rw [Data.textsOfFields, hname, if_neg Bool.false_ne_true]
              exact List.mem_append_left _ (List.mem_append_left _ List.mem_cons_self)
            exact tidyLines_longField hname hkey
              (tidyLines_printValue (column + 2) value htext hnumeral)
              (printValue_starts _ hnumeral)
      have hline : TidyLines (indentation start ++ printField column (name, value)) :=
        hfield.indent start (printField_starts column (name, value))
      rw [printFields]
      by_cases hrest : rest = []
      · rw [hrest, printFields, List.append_nil]
        exact hline
      · exact (tidyLines_printFields column column rest hrest
          (fun s hs => htexts s (List.mem_append_right _ hs))
          (fun n hn => hnumerals n (List.mem_append_right _ hn))).append hline.tidy

end

/-- Nothing is removed from the ends of printed lines, if no text in the data ends a line in a blank
    other than a space. -/
theorem trimLines_print {d : Data} (htexts : ∀ s ∈ d.texts, EndsInSpaces s.toList)
    (hnumerals : ∀ n ∈ d.numerals, IsNumeral n) : trimLines (print d) = print d := by
  have hlines := tidyLines_printValue 0 d htexts hnumerals
  exact trimLines_of_tidy hlines.tidy fun c hc => Option.some.inj (hc.symm.trans hlines.ended)

end Yaml

end Manuscript
