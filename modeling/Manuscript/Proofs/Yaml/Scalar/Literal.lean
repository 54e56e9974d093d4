import Manuscript.Proofs.Yaml.Cursor
import Manuscript.Proofs.Yaml.Scalar.Style
import Manuscript.Yaml.Printer
import Manuscript.Yaml.Scalar.Block

/-!
# Literal Scalars Read Back

A text that is written as indented lines is read back. Two things have to come
out right: where the lines start, and how many line breaks the text ends with.

The lines start where the header says, if it has a digit. Otherwise the first
line fixes the column, and the first line is known to be neither empty nor to
start with a space.

While lines are read, the line breaks at the end are held back, since it depends
on what follows whether they belong to the text. `AtLine` describes what is held
at the start of a line. From it the sign of the header picks what the text ends
with.

## Main definitions

* `Yaml.lineEnd`: The line break that ends the last line, if the text does not.
* `Yaml.AtLine`, `Yaml.InLine`: What is held at the start of a line and within it.

## Theorems

* `Yaml.readHeader?_literalHeader`: The header is read back.
* `Yaml.readIndentation_writeLines`: So are the lines.
* `Yaml.readBlock?_write`: A literal scalar is read back.
-/

namespace Manuscript

namespace Yaml

/-! ### The header -/

/-- What the sign of the header says of a text. -/
def chompingOf (cs : List Char) : Chomping :=
  match cs.reverse with
  | [] => .strip
  | [c] => if isBreak c then .keep else .strip
  | c :: d :: _ => if !isBreak c then .strip else if isBreak d then .keep else .clip

/-- What the digit of the header says of a text. -/
def incrementOf (cs : List Char) : Option Nat :=
  if cs.head?.any (fun c => c = ' ' || isBreak c) then some 2 else none

/-- The sign for what happens to the line breaks at the end. -/
def chompingSign : Chomping → List Char
  | .strip => ['-']
  | .clip => []
  | .keep => ['+']

theorem literalHeader_eq (cs : List Char) :
    literalHeader cs =
      '|' :: ((if (incrementOf cs).isSome then ['2'] else []) ++ chompingSign (chompingOf cs)) := by
  have hdigit : (if cs.head?.any (fun c => c = ' ' || isBreak c) then ['2'] else []) =
      if (incrementOf cs).isSome then ['2'] else [] := by
    unfold incrementOf
    split <;> rfl
  have hsign : (match cs.reverse with
      | [] => ['-']
      | [c] => if isBreak c then ['+'] else ['-']
      | c :: d :: _ => if !isBreak c then ['-'] else if isBreak d then ['+'] else []) =
        chompingSign (chompingOf cs) := by
    unfold chompingOf
    split
    · rfl
    · split <;> rfl
    · split
      · rfl
      · split <;> rfl
  rw [← hdigit, ← hsign]
  rfl

/-- The header is read up to the start of the first line. -/
theorem readHeader?_literalHeader (cs : List Char) (m : Mark) (rest : List Char) :
    ∃ m', readHeader? false ⟨m, literalHeader cs ++ '\n' :: rest⟩ =
      some (⟨false, chompingOf cs, incrementOf cs⟩, ⟨m', rest⟩) ∧ m'.column = 0 := by
  have hincrement : incrementOf cs = none ∨ incrementOf cs = some 2 := by
    unfold incrementOf
    split
    · exact .inr rfl
    · exact .inl rfl
  rw [literalHeader_eq]
  rcases hincrement with h | h
  · rw [h]
    cases chompingOf cs <;> exact ⟨_, rfl, rfl⟩
  · rw [h]
    cases chompingOf cs <;> exact ⟨_, rfl, rfl⟩

/-! ### The lines -/

/-- What ends the last line of a text, if the text does not do so itself. The flag says whether a
    line starts here. -/
def lineEnd : Bool → List Char → List Char
  | atStart, [] => if atStart then [] else ['\n']
  | _, c :: cs => lineEnd (isBreak c) cs

/-- What is held at the start of a line, where `read` is the text so far, last character first. -/
structure AtLine (column : Nat) (b : BlockLines) (read : List Char) : Prop where
  folds : b.folds = false
  indent : b.indent = column
  held : b.empties ++ b.ending ++ b.out = read
  breaks : ∀ c ∈ b.empties ++ b.ending, isBreak c = true
  started : b.ending = [] → b.out = []

/-- What is held within a line. -/
structure InLine (column : Nat) (b : BlockLines) (read : List Char) : Prop where
  folds : b.folds = false
  indent : b.indent = column
  held : b.out = read
  ending : b.ending = []
  empties : b.empties = []

theorem AtLine.startLine {column : Nat} {b : BlockLines} {read : List Char}
    (h : AtLine column b read) (c : Char) : InLine column (b.startLine c) (c :: read) where
  folds := h.folds
  indent := h.indent
  held := by
    rw [BlockLines.startLine, h.folds, ← h.held]
    rfl
  ending := rfl
  empties := rfl

theorem AtLine.addEmpty {column : Nat} {b : BlockLines} {read : List Char}
    (h : AtLine column b read) {c : Char} (hc : isBreak c = true) (hline : lineBreak c = c)
    (place : Nat) : AtLine column (b.addEmpty c place) (c :: read) where
  folds := h.folds
  indent := h.indent
  held := by
    rw [BlockLines.addEmpty, hline, ← h.held]
    rfl
  breaks d hd := by
    rw [BlockLines.addEmpty, hline, List.cons_append] at hd
    rcases List.mem_cons.mp hd with rfl | hd
    · exact hc
    · exact h.breaks d hd
  started := h.started

theorem InLine.endLine {column : Nat} {b : BlockLines} {read : List Char}
    (h : InLine column b read) {c : Char} (hc : isBreak c = true) :
    AtLine column { b with ending := [c] } (c :: read) where
  folds := h.folds
  indent := h.indent
  held := by
    rw [h.empties, h.held]
    rfl
  breaks d hd := by
    rw [h.empties, List.nil_append, List.mem_singleton] at hd
    exact hd ▸ hc
  started hnil := absurd hnil (List.cons_ne_nil c [])

theorem InLine.cons {column : Nat} {b : BlockLines} {read : List Char}
    (h : InLine column b read) (c : Char) :
    InLine column { b with out := c :: b.out } (c :: read) where
  folds := h.folds
  indent := h.indent
  held := congrArg (List.cons c) h.held
  ending := h.ending
  empties := h.empties

section

variable {least column limit : Nat} {tail : List Char}

/-- Blanks are passed over up to the column of the lines, or as long as it is not known. -/
theorem readIndentation_indentation {b : BlockLines} {m : Mark} {k : Nat}
    (h : b.indent = 0 ∨ m.column + k ≤ b.indent) (cs : List Char) :
    readIndentation least b m (indentation k ++ cs) = readIndentation least b (m.steps k) cs := by
  induction k generalizing m with
  | zero => rfl
  | succ k ih =>
      have hroom : (decide (b.indent = 0) || decide (m.column < b.indent)) = true := by
        rw [Bool.or_eq_true, decide_eq_true_eq, decide_eq_true_eq]
        omega
      have hnext : b.indent = 0 ∨ (m.steps 1).column + k ≤ b.indent := by
        rw [show (m.steps 1).column = m.column + 1 from rfl]
        omega
      have hspace : isBreak ' ' = false := rfl
      rw [indentation, List.replicate_succ, List.cons_append, ← indentation,
        readIndentation.eq_2 _ _ _ _ _ (fun _ heq => by cases heq), hspace, hroom,
        Mark.step_space]
      exact (ih hnext).trans (by rw [Mark.steps_steps, Nat.add_comm])

/-- A character that stands right at the column of the lines starts a line, whatever it is. -/
theorem readIndentation_start {b : BlockLines} {read : List Char} (hcolumn : 0 < column)
    (hb : AtLine column b read) {m : Mark} (hm : m.column = column) {c : Char}
    (hbreak : isBreak c = false) (cs : List Char) :
    readIndentation least b m (c :: cs) = readLine least (b.startLine c) (m.step c) cs := by
  have hreturn := ne_return_of_unbroken hbreak
  have hroom : (decide (b.indent = 0) || decide (m.column < b.indent)) = false := by
    rw [Bool.or_eq_false_iff, decide_eq_false_iff_not, decide_eq_false_iff_not, hb.indent, hm]
    omega
  have hsettle : b.settle least column = b := by
    rw [BlockLines.settle, if_neg (by rw [hb.indent]; omega)]
  rw [readIndentation.eq_2 _ _ _ _ _ fun _ heq => absurd heq hreturn, hbreak, hroom]
  simp only [Bool.false_eq_true, if_false, Bool.false_and, hm, hsettle, hb.indent, if_true]

/-- After the last line reading stops at the next word. -/
theorem readIndentation_follows (hlimit : limit < column) (htail : Follows limit tail)
    {b : BlockLines} {read : List Char} (hb : AtLine column b read) {m : Mark}
    (hm : m.column = 0) :
    readIndentation least b m tail = some (b, (toToken false true false m tail).2) := by
  cases htail with
  | finish => rfl
  | @line k hk c hc cs =>
      have hreturn := ne_return_of_unbroken hc.unbroken
      have hgap := isGap_eq_false_iff.mp hc.noGap
      have hplace : (m.steps k).column = k := by rw [Mark.steps, hm, Nat.zero_add]
      have hsettle : b.settle least k = b := by
        rw [BlockLines.settle, if_neg (by rw [hb.indent]; omega)]
      have hne : ¬k = column := by omega
      rw [readIndentation_indentation (.inr (by rw [hm, hb.indent]; omega)), toToken_line hc,
        readIndentation.eq_2 _ _ _ _ _ fun _ heq => absurd heq hreturn, hc.unbroken]
      simp only [hgap.1, hgap.2, decide_false, Bool.and_false, Bool.false_eq_true, if_false, hplace,
        hsettle, hb.indent, hne]

mutual

theorem readIndentation_writeLines (hcolumn : 0 < column) (hlimit : limit < column)
    (htail : Follows limit tail) : ∀ (cs : List Char) (_ : ∀ c ∈ cs, isWritable c = true)
    {b : BlockLines} {read : List Char} (_ : AtLine column b read) {m : Mark} (_ : m.column = 0),
    ∃ b' m', readIndentation least b m (writeLines column true cs ++ lineEnd true cs ++ tail) =
      some (b', (toToken false true false m' tail).2) ∧
        AtLine column b' ((cs ++ lineEnd true cs).reverse ++ read) ∧ m'.column = 0
  | [], _, b, read, hb, m, hm =>
      ⟨b, m, readIndentation_follows hlimit htail hb hm, hb, hm⟩
  | c :: cs, hcs, b, read, hb, m, hm => by
      have hwrite := hcs c List.mem_cons_self
      have hrest : ∀ d ∈ cs, isWritable d = true := fun d hd => hcs d (List.mem_cons_of_mem c hd)
      -- An empty line is not indented, so a line break may come before the column of the lines.
      by_cases hbreak : isBreak c = true
      · have hline := lineBreak_of_isWritable hwrite hbreak
        have hreturn := ne_return_of_isWritable hwrite
        rcases readIndentation_writeLines hcolumn hlimit htail cs hrest
          (hb.addEmpty hbreak hline m.column) (m := m.newline c.utf8Size) rfl with
          ⟨b', m', hread, hb', hm'⟩
        refine ⟨b', m', ?_, ?_, hm'⟩
        · rw [writeLines, if_pos hbreak, lineEnd, hbreak, List.cons_append, List.cons_append,
            readIndentation.eq_2 _ _ _ _ _ fun _ heq => absurd heq hreturn, if_pos hbreak]
          exact hread
        · rw [lineEnd, hbreak, List.cons_append, List.reverse_cons, List.append_assoc]
          exact hb'
      · rw [Bool.not_eq_true] at hbreak
        have hplace : (m.steps column).column = column := by rw [Mark.steps, hm, Nat.zero_add]
        rcases readLine_writeLines hcolumn hlimit htail cs hrest (hb.startLine c)
          ((m.steps column).step c) with ⟨b', m', hread, hb', hm'⟩
        refine ⟨b', m', ?_, ?_, hm'⟩
        · rw [writeLines, hbreak, if_neg Bool.false_ne_true, if_pos rfl, lineEnd, hbreak,
            List.append_assoc, List.append_assoc,
            readIndentation_indentation
              (.inr (Nat.le_of_eq (by rw [hm, hb.indent, Nat.zero_add]))),
            List.cons_append, readIndentation_start hcolumn hb hplace hbreak, ← List.append_assoc]
          exact hread
        · rw [lineEnd, hbreak, List.cons_append, List.reverse_cons, List.append_assoc]
          exact hb'

theorem readLine_writeLines (hcolumn : 0 < column) (hlimit : limit < column)
    (htail : Follows limit tail) : ∀ (cs : List Char) (_ : ∀ c ∈ cs, isWritable c = true)
    {b : BlockLines} {read : List Char} (_ : InLine column b read) (m : Mark),
    ∃ b' m', readLine least b m (writeLines column false cs ++ lineEnd false cs ++ tail) =
      some (b', (toToken false true false m' tail).2) ∧
        AtLine column b' ((cs ++ lineEnd false cs).reverse ++ read) ∧ m'.column = 0
  | [], _, b, read, hb, m => by
      have hend : AtLine column { b with ending := ['\n'] } ('\n' :: read) := hb.endLine rfl
      exact ⟨_, m.newline 1, readIndentation_follows hlimit htail hend rfl, hend, rfl⟩
  | c :: cs, hcs, b, read, hb, m => by
      have hwrite := hcs c List.mem_cons_self
      have hrest : ∀ d ∈ cs, isWritable d = true := fun d hd => hcs d (List.mem_cons_of_mem c hd)
      have hreturn := ne_return_of_isWritable hwrite
      by_cases hbreak : isBreak c = true
      · have hline := lineBreak_of_isWritable hwrite hbreak
        rcases readIndentation_writeLines hcolumn hlimit htail cs hrest (hb.endLine hbreak)
          (m := m.newline c.utf8Size) rfl with ⟨b', m', hread, hb', hm'⟩
        refine ⟨b', m', ?_, ?_, hm'⟩
        · rw [writeLines, if_pos hbreak, lineEnd, hbreak, List.cons_append, List.cons_append,
            readLine.eq_2 _ _ _ _ _ fun _ heq => absurd heq hreturn, if_pos hbreak, hline]
          exact hread
        · rw [lineEnd, hbreak, List.cons_append, List.reverse_cons, List.append_assoc]
          exact hb'
      · rw [Bool.not_eq_true] at hbreak
        rcases readLine_writeLines hcolumn hlimit htail cs hrest (hb.cons c) (m.step c) with
          ⟨b', m', hread, hb', hm'⟩
        refine ⟨b', m', ?_, ?_, hm'⟩
        · rw [writeLines, hbreak, if_neg Bool.false_ne_true, if_neg Bool.false_ne_true, lineEnd,
            hbreak, List.nil_append, List.cons_append, List.cons_append,
            readLine.eq_2 _ _ _ _ _ (fun _ heq => absurd heq hreturn), hbreak]
          exact hread
        · rw [lineEnd, hbreak, List.cons_append, List.reverse_cons, List.append_assoc]
          exact hb'

end

/-- Where the indentation is not known, the first line fixes it, as long as it is not empty and does
    not start with a space. -/
theorem readIndentation_first (hcolumn : 0 < column) (hleast : least ≤ column) {b : BlockLines}
    (hindent : b.indent = 0) (hreach : b.reach = 0) {m : Mark} (hm : m.column = 0) {c : Char}
    (hbreak : isBreak c = false) (hgap : isGap c = false) (cs : List Char) :
    readIndentation least b m (indentation column ++ c :: cs) =
      readLine least ({ b with indent := column }.startLine c) ((m.steps column).step c) cs := by
  have hreturn := ne_return_of_unbroken hbreak
  rw [isGap, Bool.or_eq_false_iff] at hgap
  have hplace : (m.steps column).column = column := by rw [Mark.steps, hm, Nat.zero_add]
  have hmost : max (max 0 column) (max least 1) = column := by omega
  have hsettle : b.settle least column = { b with indent := column } := by
    rw [BlockLines.settle, if_pos hindent, hreach, hmost]
  rw [readIndentation_indentation (.inl hindent),
    readIndentation.eq_2 _ _ _ _ _ fun _ heq => absurd heq hreturn, hbreak, hgap.1, hgap.2,
    hplace, hsettle]
  simp only [Bool.and_false, Bool.false_eq_true, if_false, if_true]

end

/-! ### The line breaks at the end -/

theorem lineEnd_concat (atStart : Bool) (cs : List Char) (c : Char) :
    lineEnd atStart (cs ++ [c]) = if isBreak c then [] else ['\n'] := by
  induction cs generalizing atStart with
  | nil => rfl
  | cons d cs ih => exact ih (isBreak d)

theorem getLast?_writeLines (column : Nat) (atStart : Bool) (cs : List Char) (c : Char) :
    (writeLines column atStart (cs ++ [c])).getLast? = some c := by
  induction cs generalizing atStart with
  | nil =>
      rw [List.nil_append, writeLines, writeLines, writeLines]
      split
      · rfl
      · exact List.getLast?_concat
  | cons d cs ih =>
      rw [List.cons_append, writeLines]
      split
      · rw [List.getLast?_cons, ih]
        rfl
      · rw [List.getLast?_append, List.getLast?_cons, ih]
        rfl

/-- The last line of a literal scalar is ended by what the text lacks. -/
theorem endLine_literal (column : Nat) (cs : List Char) :
    endLine (writeStyled column cs .literal) =
      literalHeader cs ++ '\n' :: (writeLines column true cs ++ lineEnd true cs) := by
  rw [endLine, writeStyled, List.getLast?_append, List.getLast?_cons]
  rcases List.eq_nil_or_concat cs with rfl | ⟨ds, c, rfl⟩
  · rfl
  · rw [List.concat_eq_append, getLast?_writeLines, lineEnd_concat]
    cases hc : isBreak c with
    | false =>
        rw [if_neg (by simp [hc]), if_neg Bool.false_ne_true, List.append_assoc, List.cons_append]
    | true => rw [if_pos (by simp [hc]), if_pos rfl, List.append_nil]

theorem append_eq_cons_cons {xs ys : List Char} {c d : Char} {read : List Char}
    (h : xs ++ ys = c :: d :: read) (hne : xs ≠ []) (hd : d ∉ xs) : xs = [c] ∧ ys = d :: read := by
  match xs, hne, hd, h with
  | [_], _, _, h =>
      rcases List.cons_eq_cons.mp h with ⟨rfl, hrest⟩
      exact ⟨rfl, hrest⟩
  | _ :: _ :: _, _, hd, h =>
      rcases List.cons_eq_cons.mp (List.cons_eq_cons.mp h).2 with ⟨rfl, -⟩
      exact absurd (List.mem_cons_of_mem _ List.mem_cons_self) hd

/-- Where a text ends in a line break after another character, that line break alone is held. -/
theorem AtLine.ends {column : Nat} {b : BlockLines} {c d : Char} {read : List Char}
    (h : AtLine column b (c :: d :: read)) (hd : isBreak d = false) :
    b.ending = [c] ∧ b.out = d :: read := by
  have hheld := h.held
  have hnot : d ∉ b.empties ++ b.ending := fun hmem => by
    rw [h.breaks d hmem] at hd
    cases hd
  have hending : b.ending ≠ [] := by
    intro hnil
    rw [h.started hnil, List.append_nil] at hheld
    exact hnot (hheld ▸ List.mem_cons_of_mem c List.mem_cons_self)
  have hne : b.empties ++ b.ending ≠ [] := fun hnil => hending (List.append_eq_nil_iff.mp hnil).2
  rcases append_eq_cons_cons hheld hne hnot with ⟨hone, hout⟩
  rcases List.append_eq_singleton_iff.mp hone with ⟨-, hlast⟩ | ⟨-, hnil⟩
  · exact ⟨hlast, hout⟩
  · exact absurd hnil hending

/-- The sign of the header picks the text out of what is held. -/
theorem AtLine.text_eq {column : Nat} {b : BlockLines} {cs : List Char}
    (h : AtLine column b (cs ++ lineEnd true cs).reverse) :
    b.text (chompingOf cs) = String.ofList cs := by
  have hheld := h.held
  rcases List.eq_nil_or_concat cs with rfl | ⟨ds, c, rfl⟩
  · have hout : b.out = [] := (List.append_eq_nil_iff.mp hheld).2
    exact congrArg (fun out => String.ofList out.reverse) hout
  · rw [List.concat_eq_append] at h hheld ⊢
    rw [lineEnd_concat] at h hheld
    cases hc : isBreak c with
    | false =>
        -- The line break that ends the last line is not part of the text.
        rw [hc, if_neg Bool.false_ne_true, List.reverse_append, List.reverse_append] at h
        have hchomp : chompingOf (ds ++ [c]) = .strip := by
          unfold chompingOf
          rw [List.reverse_append]
          cases ds.reverse <;> simp [hc]
        rw [hchomp, BlockLines.text, (h.ends hc).2]
        simp
    | true =>
        rw [hc, if_pos rfl, List.append_nil] at h hheld
        have hkeep : b.text .keep = String.ofList (ds ++ [c]) := by
          rw [BlockLines.text, hheld, List.reverse_reverse]
        rcases List.eq_nil_or_concat ds with rfl | ⟨es, d, rfl⟩
        · have hchomp : chompingOf ([] ++ [c]) = .keep := by simp [chompingOf, hc]
          rw [hchomp, hkeep]
        · rw [List.concat_eq_append] at h hkeep ⊢
          cases hd : isBreak d with
          | false =>
              have hchomp : chompingOf (es ++ [d] ++ [c]) = .clip := by simp [chompingOf, hc, hd]
              rw [List.reverse_append, List.reverse_append] at h
              rw [hchomp, BlockLines.text, (h.ends hd).1, (h.ends hd).2]
              simp
          | true =>
              have hchomp : chompingOf (es ++ [d] ++ [c]) = .keep := by simp [chompingOf, hc, hd]
              rw [hchomp, hkeep]

/-! ### The scalar -/

/-- A literal scalar is read back, together with its header, up to the first word of the line after
    it. -/
theorem readBlock?_write {outer : Nat} {cs : List Char} (hcs : ∀ c ∈ cs, isWritable c = true)
    (hne : cs ≠ []) (m : Mark) {tail : List Char} (htail : Follows outer tail) :
    ∃ m', readBlock? false (some outer)
        ⟨m, endLine (writeStyled (outer + 2) cs .literal) ++ tail⟩ =
      some (String.ofList cs, (toToken false true false m' tail).2) ∧ m'.column = 0 := by
  rw [endLine_literal, List.append_assoc, List.cons_append]
  rcases readHeader?_literalHeader cs m (writeLines (outer + 2) true cs ++ lineEnd true cs ++ tail)
    with ⟨m₁, hheader, hm₁⟩
  have hlines : ∃ b m₂, readIndentation (outer + 1)
      ⟨false, ((incrementOf cs).map (outer + ·)).getD 0, 0, [], [], [], false⟩ m₁
        (writeLines (outer + 2) true cs ++ lineEnd true cs ++ tail) =
          some (b, (toToken false true false m₂ tail).2) ∧
            AtLine (outer + 2) b (cs ++ lineEnd true cs).reverse ∧ m₂.column = 0 := by
    have hstart (indent : Nat) (h : indent = outer + 2) :
        AtLine (outer + 2) ⟨false, indent, 0, [], [], [], false⟩ [] :=
      ⟨rfl, h, rfl, fun _ hmem => absurd hmem List.not_mem_nil, fun _ => rfl⟩
    rw [← List.append_nil (cs ++ lineEnd true cs).reverse]
    unfold incrementOf
    split
    case isTrue =>
      exact readIndentation_writeLines (Nat.succ_pos _) (by omega) htail cs hcs (hstart _ rfl) hm₁
    case isFalse hfirst =>
      match cs, hne, hcs, hfirst with
      | c :: cs, _, hcs, hfirst =>
          rw [Bool.not_eq_true, List.head?_cons, Option.any_some, Bool.or_eq_false_iff] at hfirst
          have hgap : isGap c = false := by
            rw [isGap, hfirst.1, Bool.false_or,
              decide_eq_false (ne_tab_of_isWritable (hcs _ List.mem_cons_self))]
          rcases readLine_writeLines (Nat.succ_pos _) (by omega) htail cs
            (fun d hd => hcs d (List.mem_cons_of_mem c hd)) ((hstart _ rfl).startLine c)
              ((m₁.steps (outer + 2)).step c) with ⟨b, m₂, hread, hb, hm₂⟩
          refine ⟨b, m₂, ?_, ?_, hm₂⟩
          · rw [writeLines, hfirst.2, if_neg Bool.false_ne_true, if_pos rfl, lineEnd, hfirst.2,
              List.append_assoc, List.append_assoc, List.cons_append,
              readIndentation_first (Nat.succ_pos _) (by omega) rfl rfl hm₁ hfirst.2 hgap,
              ← List.append_assoc]
            exact hread
          · rw [lineEnd, hfirst.2, List.cons_append, List.reverse_cons, List.append_assoc]
            exact hb
  rcases hlines with ⟨b, m₂, hread, hb, hm₂⟩
  refine ⟨m₂, ?_, hm₂⟩
  unfold readBlock?
  rw [hheader, Option.bind_eq_bind, Option.bind_some]
  dsimp only
  cases hincrement : incrementOf cs with
  | none =>
      rw [hincrement] at hread
      rw [← hb.text_eq]
      exact congrArg (Option.bind · _) hread
  | some n =>
      rw [hincrement] at hread
      rw [Option.getD_some, ← hb.text_eq]
      exact congrArg (Option.bind · _) hread

end Yaml

end Manuscript
