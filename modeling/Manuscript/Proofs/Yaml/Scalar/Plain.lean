import Manuscript.Proofs.Yaml.Cursor
import Manuscript.Proofs.Yaml.Scalar.Style
import Manuscript.Yaml.Scalar.Plain

/-!
# Plain Scalars Read Back

A text that is written without quotes is read back, where it is followed by the
colon of a value or by the end of its line. Within the text nothing ends a plain
scalar, as the tests for the style make sure, so the text is read through
character by character. What comes after it decides where the scalar ends.

A line break alone does not end a plain scalar. It ends because the line after
it is indented no more than the collection around it, and what is read then goes
as far as the first word of that line.

## Main definitions

* `Yaml.PlainRest`: Nothing in the rest of a text ends a plain scalar.

## Theorems

* `Yaml.readPlain_append`: A plain text is read through.
* `Yaml.readPlain_colon`: It ends before the colon of a value.
* `Yaml.readPlain_line`: It ends with its line.
-/

namespace Manuscript

namespace Yaml

/-! ### Plain texts -/

/-- Nothing in the rest of a plain text ends the scalar, after spaces that are held back. -/
structure PlainRest (blanks cs : List Char) : Prop where
  writable : ∀ c ∈ cs, isWritable c = true
  unbroken : ∀ c ∈ cs, isBreak c = false
  last : cs.getLast? ≠ some ' '
  inner : hasIndicator cs = false
  comment : blanks ≠ [] → cs.head? ≠ some '#'
  goesOn : blanks ≠ [] → cs ≠ []

theorem endsWord_append {cs : List Char} (h : cs ≠ []) (tail : List Char) :
    endsWord (cs ++ tail) = endsWord cs := by
  cases cs with
  | nil => exact absurd rfl h
  | cons c cs => rfl

namespace PlainText

variable {cs : List Char}

/-- The first character ends no scalar either, since the text does not start like a value. -/
theorem hasIndicator_eq (h : PlainText cs) : hasIndicator cs = false := by
  cases cs with
  | nil => rfl
  | cons c cs =>
      have hcolon : (decide (c = ':') && endsWord cs) = false := by
        by_cases hc : c = ':'
        · subst hc
          exact h.start
        · rw [decide_eq_false hc, Bool.false_and]
      rw [hasIndicator, hcolon, h.noGap, h.unbroken c List.mem_cons_self]
      exact h.inner

theorem rest (h : PlainText cs) : PlainRest [] cs :=
  ⟨h.writable, h.unbroken, h.last, h.hasIndicator_eq, fun hne => absurd rfl hne,
    fun hne => absurd rfl hne⟩

/-- The text does not mark a document, whatever comes after it. -/
theorem marksDocument_append (h : PlainText cs) {tail : List Char}
    (htail : ∀ c, tail.head? = some c → c ≠ '-' ∧ c ≠ '.') :
    marksDocument (cs ++ tail) = false := by
  rw [← Bool.not_eq_true]
  intro hmarks
  have hdots : ∃ a r, cs ++ tail = a :: a :: a :: r ∧ (a = '-' ∨ a = '.') := by
    unfold marksDocument at hmarks
    split at hmarks
    · exact ⟨'-', _, ‹_›, .inl rfl⟩
    · exact ⟨'.', _, ‹_›, .inr rfl⟩
    · cases hmarks
  rcases hdots with ⟨a, r, heq, ha⟩
  have hout : ∀ c, tail.head? = some c → c ≠ a := by
    rintro c hc rfl
    rcases ha with rfl | rfl
    · exact (htail _ hc).1 rfl
    · exact (htail _ hc).2 rfl
  -- The three characters would all have to be in the text, which then starts with them.
  match cs, h.start, heq with
  | [], _, heq => exact hout a (congrArg List.head? heq) rfl
  | [_], _, heq => exact hout a (congrArg List.head? (List.tail_eq_of_cons_eq heq)) rfl
  | [_, _], _, heq =>
      exact hout a (congrArg List.head? (List.tail_eq_of_cons_eq (List.tail_eq_of_cons_eq heq))) rfl
  | _ :: _ :: _ :: cs, hstart, heq =>
      rw [List.cons_append, List.cons_append, List.cons_append] at heq
      cases heq
      rcases ha with rfl | rfl
      · cases hstart
      · cases hstart

end PlainText

namespace PlainRest

variable {blanks cs : List Char} {c : Char}

theorem space (h : PlainRest blanks (c :: cs)) (hgap : isGap c = true) : c = ' ' := by
  have htab := ne_tab_of_isWritable (h.writable c List.mem_cons_self)
  refine Decidable.byContradiction fun hspace => ?_
  rw [isGap_eq_false_iff.mpr ⟨hspace, htab⟩] at hgap
  cases hgap

theorem indicators (h : PlainRest blanks (c :: cs)) :
    (c = ':' → endsWord cs = false) ∧ (isGap c = true → cs.head? ≠ some '#') ∧
      hasIndicator cs = false := by
  have hinner := h.inner
  rw [hasIndicator, Bool.or_eq_false_iff, Bool.or_eq_false_iff] at hinner
  refine ⟨fun hc => ?_, fun hgap hhead => ?_, hinner.2⟩
  · have hcolon := hinner.1.1
    rw [decide_eq_true hc, Bool.true_and] at hcolon
    exact hcolon
  · have hcomment := hinner.1.2
    rw [hgap, Bool.true_or, Bool.true_and, decide_eq_false_iff_not] at hcomment
    exact hcomment hhead

/-- After a space the text goes on, and not with a comment. -/
theorem afterSpace (h : PlainRest blanks (c :: cs)) (hgap : isGap c = true) :
    PlainRest (c :: blanks) cs where
  writable d hd := h.writable d (List.mem_cons_of_mem c hd)
  unbroken d hd := h.unbroken d (List.mem_cons_of_mem c hd)
  last := getLast?_tail_ne h.last
  inner := h.indicators.2.2
  comment _ := h.indicators.2.1 hgap
  goesOn _ := by
    rintro rfl
    exact h.last (congrArg some (h.space hgap))

theorem afterWord (h : PlainRest blanks (c :: cs)) : PlainRest [] cs where
  writable d hd := h.writable d (List.mem_cons_of_mem c hd)
  unbroken d hd := h.unbroken d (List.mem_cons_of_mem c hd)
  last := getLast?_tail_ne h.last
  inner := h.indicators.2.2
  comment hne := absurd rfl hne
  goesOn hne := absurd rfl hne

end PlainRest

theorem readPlain_append {indent : Nat} (tail : List Char) {cs blanks : List Char}
    (h : PlainRest blanks cs) (out : List Char) {m : Mark}
    (hm : m.column = 0 → marksDocument (cs ++ tail) = false) :
    readPlain false indent out (.blanks blanks) m (cs ++ tail) =
      readPlain false indent (cs.reverse ++ (blanks ++ out)) .empty (m.past cs) tail := by
  induction cs generalizing blanks out m with
  | nil =>
      cases blanks with
      | nil => rfl
      | cons b blanks => exact absurd rfl (h.goesOn (List.cons_ne_nil b blanks))
  | cons c cs ih =>
      have hbreak := h.unbroken c List.mem_cons_self
      have hreturn := ne_return_of_unbroken hbreak
      have hcolumn : (m.step c).column = 0 → marksDocument (cs ++ tail) = false :=
        fun hzero => absurd hzero (Nat.succ_ne_zero _)
      have hpast : m.past (c :: cs) = (m.step c).past cs := rfl
      rw [List.cons_append, readPlain.eq_2 _ _ _ _ _ _ _ fun _ heq => absurd heq hreturn, hbreak,
        if_neg Bool.false_ne_true]
      by_cases hgap : isGap c = true
      · have htab : (decide (c = '\t') && Gap.isBroken (.blanks blanks) &&
            decide (m.column < indent)) = false := by
          rw [h.space hgap]
          rfl
        rw [if_pos hgap, htab, if_neg Bool.false_ne_true, Gap.addBlank,
          ih (h.afterSpace hgap) out hcolumn, hpast, List.reverse_cons, List.append_assoc]
        rfl
      · have hend : gapEndsPlain false indent (.blanks blanks) m (c :: (cs ++ tail)) = false := by
          have hmark : (decide (m.column = 0) && marksDocument (c :: (cs ++ tail))) = false := by
            rw [Bool.and_eq_false_iff, decide_eq_false_iff_not]
            exact Decidable.or_iff_not_imp_left.mpr fun hzero => hm (Decidable.not_not.mp hzero)
          have hcomment : (Gap.blanks blanks != .empty &&
              decide ((c :: (cs ++ tail)).head? = some '#')) = false := by
            cases blanks with
            | nil => rfl
            | cons b blanks =>
                have hhead : (c :: (cs ++ tail)).head? ≠ some '#' :=
                  h.comment (List.cons_ne_nil b blanks)
                rw [decide_eq_false hhead, Bool.and_false]
          rw [gapEndsPlain, hmark, hcomment]
          rfl
        have hcolon : (decide (c = ':') && endsWord (cs ++ tail) ||
            false && isFlowIndicator c) = false := by
          rw [Bool.false_and, Bool.or_false, Bool.and_eq_false_iff, decide_eq_false_iff_not]
          refine Decidable.or_iff_not_imp_left.mpr fun hc => ?_
          have hword := h.indicators.1 (Decidable.not_not.mp hc)
          cases cs with
          | nil => cases hword
          | cons d cs => exact hword
        rw [if_neg hgap, hend, if_neg Bool.false_ne_true, Bool.false_and, Bool.false_and,
          if_neg Bool.false_ne_true, hcolon, if_neg Bool.false_ne_true, Gap.empty,
          ih h.afterWord _ hcolumn, hpast, List.reverse_cons, List.append_assoc]
        rfl

theorem readPlain_colon {indent : Nat} (out : List Char) (m : Mark) {rest : List Char}
    (h : endsWord rest = true) :
    readPlain false indent out .empty m (':' :: rest) =
      some ⟨String.ofList out.reverse, false, ⟨m, ':' :: rest⟩⟩ := by
  have hend : gapEndsPlain false indent .empty m (':' :: rest) = false := by
    unfold gapEndsPlain
    simp [marksDocument, Gap.isBroken, Gap.empty]
  have hbreak : isBreak ':' = false := rfl
  have hgap : isGap ':' = false := rfl
  rw [readPlain.eq_2 _ _ _ _ _ _ _ (fun _ heq => by cases heq), hbreak, hgap, hend, h]
  rfl

theorem readPlain_indentation (indent : Nat) (out : List Char) (first? : Option Char)
    (more : List Char) (m : Mark) (k : Nat) (cs : List Char) :
    readPlain false indent out (.lines first? more) m (indentation k ++ cs) =
      readPlain false indent out (.lines first? more) (m.steps k) cs :=
  pass_indentation (fun _ _ => rfl) m k cs

theorem readPlain_line {limit indent : Nat} (hlimit : limit < indent) (out : List Char) (m : Mark)
    {tail : List Char} (h : Follows limit tail) :
    readPlain false indent out .empty m ('\n' :: tail) =
      some ⟨String.ofList out.reverse, true, (toToken false true false (m.newline 1) tail).2⟩ := by
  have hnext : readPlain false indent out .empty m ('\n' :: tail) =
    readPlain false indent out (.lines (some '\n') []) (m.newline 1) tail := rfl
  rw [hnext]
  cases h with
  | finish => rfl
  | @line k hk c hc cs =>
      have hreturn := ne_return_of_unbroken hc.unbroken
      have hcolumn : ((m.newline 1).steps k).column < indent := by
        rw [show ((m.newline 1).steps k).column = k from Nat.zero_add k]
        exact Nat.lt_of_le_of_lt hk hlimit
      have hend : gapEndsPlain false indent (.lines (some '\n') []) ((m.newline 1).steps k)
          (c :: cs) = true := by
        unfold gapEndsPlain
        rw [decide_eq_true hcolumn]
        exact Bool.or_true _
      rw [readPlain_indentation, readPlain.eq_2 _ _ _ _ _ _ _ (fun _ heq => absurd heq hreturn),
        hc.unbroken, hc.noGap, hend, toToken_line hc]
      rfl

end Yaml

end Manuscript
