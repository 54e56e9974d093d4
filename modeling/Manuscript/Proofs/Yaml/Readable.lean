import Manuscript.Proofs.Yaml.Printed
import Manuscript.Proofs.Yaml.Scalar.Escape
import Manuscript.Proofs.Yaml.Scalar.Literal

/-!
# Characters of Printed Data

A text with a character that cannot be shown is not read at all. Printed data
has no such characters, whatever is in it. A style that writes characters as
they are asks for writable ones, and all others are escaped.

## Theorems

* `Yaml.readable_writeScalar`: The characters of a scalar can be read.
* `Yaml.readable_printValue`: So can those of data.
-/

namespace Manuscript

namespace Yaml

/-- A text may hold all of the characters. -/
def Readable (cs : List Char) : Prop := ∀ c ∈ cs, isReadable c = true

namespace Readable

variable {c : Char} {cs ds : List Char}

theorem nil : Readable [] := List.forall_mem_nil _

/-- A text that is known can be tested. -/
theorem of_all (h : cs.all isReadable = true) : Readable cs := List.all_eq_true.mp h

theorem append (hcs : Readable cs) (hds : Readable ds) : Readable (cs ++ ds) :=
  fun c hc => (List.mem_append.mp hc).elim (hcs c) (hds c)

theorem cons (hc : isReadable c = true) (h : Readable cs) : Readable (c :: cs) :=
  List.forall_mem_cons.mpr ⟨hc, h⟩

theorem indentation (column : Nat) : Readable (indentation column) := by
  intro c hc
  rw [List.eq_of_mem_replicate hc]
  rfl

theorem endLine (h : Readable cs) : Readable (endLine cs) := by
  rw [Yaml.endLine]
  split
  · exact h
  · exact h.append (of_all rfl)

end Readable

theorem isReadable_of_isWritable {c : Char} (h : isWritable c = true) : isReadable c = true := by
  unfold isWritable at h
  unfold isReadable
  simp only [Bool.or_eq_true, Bool.and_eq_true, decide_eq_true_eq] at h ⊢
  grind

theorem readable_writeSingle {cs : List Char} (h : Readable cs) (column : Nat) (afterBreak : Bool) :
    Readable (writeSingle column afterBreak cs) := by
  have hindent (b : Bool) : Readable (if b then indentation column else []) := by
    cases b
    · exact Readable.nil
    · exact Readable.indentation column
  induction cs generalizing afterBreak with
  | nil => exact hindent afterBreak
  | cons c cs ih =>
      rw [Readable, List.forall_mem_cons] at h
      rw [writeSingle]
      split
      · exact (ih h.2 true).cons h.1
      · refine ((hindent afterBreak).append ?_).append (ih h.2 false)
        split
        · exact Readable.of_all rfl
        · exact Readable.cons h.1 Readable.nil

theorem readable_writeLines {cs : List Char} (h : Readable cs) (column : Nat) (atStart : Bool) :
    Readable (writeLines column atStart cs) := by
  induction cs generalizing atStart with
  | nil => exact Readable.nil
  | cons c cs ih =>
      rw [Readable, List.forall_mem_cons] at h
      rw [writeLines]
      split
      · exact (ih h.2 true).cons h.1
      · refine Readable.append ?_ ((ih h.2 false).cons h.1)
        split
        · exact Readable.indentation column
        · exact Readable.nil

theorem readable_literalHeader (cs : List Char) : Readable (literalHeader cs) := by
  rw [literalHeader_eq]
  refine Readable.cons rfl (Readable.append ?_ ?_)
  · split <;> exact Readable.of_all rfl
  · cases chompingOf cs <;> exact Readable.of_all rfl

theorem readable_writeScalar (column : Nat) (s : String) : Readable (writeScalar column s) := by
  have hsuits := suits_styleOf s
  unfold writeScalar
  generalize styleOf s = style at hsuits ⊢
  cases hsuits with
  | plain hneeds hallows =>
      exact fun c hc => isReadable_of_isWritable ((plainText_of_allowsPlain hallows).writable c hc)
  | singleQuoted hfeed hallows =>
      simp only [allowsSingle, Bool.and_eq_true, List.all_eq_true] at hallows
      have htext : Readable s.toList := fun c hc => isReadable_of_isWritable (hallows.1.1 c hc)
      exact ((readable_writeSingle htext column false).cons rfl).append (Readable.of_all rfl)
  | literal hfeed hallows =>
      simp only [allowsLiteral, Bool.and_eq_true, List.all_eq_true] at hallows
      have htext : Readable s.toList := fun c hc => isReadable_of_isWritable (hallows.1.1 c hc)
      exact (readable_literalHeader s.toList).append
        ((readable_writeLines htext column true).cons rfl)
  | doubleQuoted =>
      have htext : Readable (s.toList.flatMap writeEscaped) := by
        intro d hd
        rcases List.mem_flatMap.mp hd with ⟨c, -, hc⟩
        exact isReadable_of_isWritable ((escapeOf_writeEscaped c).writable d hc).1
      exact (htext.cons rfl).append (Readable.of_all rfl)

/-! ### Values -/

theorem readable_printLeaf (column : Nat) {d : Data} (h : ∀ n ∈ d.numerals, IsNumeral n) :
    Readable (printLeaf column d) := by
  have hword (cs : List Char) (hcs : Readable cs) : Readable (endLine cs) := hcs.endLine
  cases d with
  | null => exact hword _ (Readable.of_all rfl)
  | flag b => cases b <;> exact hword _ (Readable.of_all rfl)
  | number n =>
      have hdigits := (h n List.mem_cons_self).digits
      exact hword _ fun c hc => isReadable_of_isWritable (isWritable_of_isDigit (hdigits c hc))
  | text s => exact (readable_writeScalar column s).endLine
  | list items => exact hword _ (Readable.of_all rfl)
  | record fields => exact hword _ (Readable.of_all rfl)

mutual

theorem readable_printValue (column : Nat) : ∀ (d : Data) (_ : ∀ n ∈ d.numerals, IsNumeral n),
    Readable (printValue column d)
  | .list (item :: rest), h => readable_printItems column 0 (item :: rest) h
  | .record (field :: rest), h => readable_printFields column 0 (field :: rest) h
  | .null, h | .flag _, h | .number _, h | .text _, h | .list [], h | .record [], h =>
      readable_printLeaf column h

theorem readable_printFieldValue (column : Nat) : ∀ (d : Data) (_ : ∀ n ∈ d.numerals, IsNumeral n),
    Readable (printFieldValue column d)
  | .list (item :: rest), h => (readable_printItems column column (item :: rest) h).cons rfl
  | .record (field :: rest), h =>
      (readable_printFields (column + 2) (column + 2) (field :: rest) h).cons rfl
  | .null, h | .flag _, h | .number _, h | .text _, h | .list [], h | .record [], h =>
      (readable_printLeaf (column + 2) h).cons rfl

theorem readable_printItems (column start : Nat) : ∀ (items : List Data)
    (_ : ∀ n ∈ Data.numeralsOfItems items, IsNumeral n),
    Readable (printItems column (indentation start) items)
  | [], _ => fun _ hc => absurd hc List.not_mem_nil
  | item :: rest, h => by
      have hitem := readable_printValue (column + 2) item
        fun n hn => h n (List.mem_append_left _ hn)
      have hrest := readable_printItems column column rest
        fun n hn => h n (List.mem_append_right _ hn)
      exact ((Readable.indentation start).append ((hitem.cons rfl).cons rfl)).append hrest

theorem readable_printFields (column start : Nat) : ∀ (fields : List (String × Data))
    (_ : ∀ n ∈ Data.numeralsOfFields fields, IsNumeral n),
    Readable (printFields column (indentation start) fields)
  | [], _ => fun _ hc => absurd hc List.not_mem_nil
  | (name, value) :: rest, h => by
      have hnumerals : ∀ n ∈ value.numerals, IsNumeral n :=
        fun n hn => h n (List.mem_append_left _ hn)
      have hname := readable_writeScalar (column + 2) name
      have hrest := readable_printFields column column rest
        fun n hn => h n (List.mem_append_right _ hn)
      have hfield : Readable (printField column (name, value)) := by
        rw [printField]
        split
        · exact hname.append ((readable_printFieldValue column value hnumerals).cons rfl)
        · exact ((((hname.endLine).cons rfl).cons rfl).append (Readable.indentation column)).append
            (((readable_printValue (column + 2) value hnumerals).cons rfl).cons rfl)
      exact ((Readable.indentation start).append hfield).append hrest

end

end Yaml

end Manuscript
