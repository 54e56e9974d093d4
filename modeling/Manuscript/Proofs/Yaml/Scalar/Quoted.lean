import Manuscript.Proofs.Yaml.Scalar.Escape
import Manuscript.Proofs.Yaml.Scalar.Style

/-!
# Quoted Scalars Read Back

A text that is written in quotes is read back, in double quotes whatever it is
and in single quotes if it suits them. What is read is held in two parts, the
text so far and the gap after it, and the induction is about both together: a
gap stands for what was read of it.

In double quotes there is never a line break, and the gap holds spaces alone.
In single quotes there may be line separators. They stand for themselves only
if no spaces are around them, which is what the tests for the style make sure.

## Theorems

* `Yaml.readDouble_write`: A text in double quotes is read back.
* `Yaml.readSingle_write`: A text in single quotes is read back.
-/

namespace Manuscript

namespace Yaml

/-! ### Double quotes -/

theorem readDouble_flatMap (cs out blanks : List Char) {m : Mark} (hm : 0 < m.column)
    (rest : List Char) :
    ∃ m', readDouble out (.blanks blanks) m (cs.flatMap writeEscaped ++ '"' :: rest) =
      some (String.ofList ((blanks ++ out).reverse ++ cs), ⟨m', rest⟩) ∧
        Mark.Within (4 * octets cs + 1) m m' := by
  induction cs generalizing out blanks m with
  | nil =>
      refine ⟨m.steps 1, ?_, Mark.Within.steps m 1⟩
      rw [List.append_nil]
      rfl
  | cons c cs ih =>
      rcases (escapeOf_writeEscaped c).readDouble out blanks hm
        (cs.flatMap writeEscaped ++ '"' :: rest) with ⟨out', blanks', m', hread, hheld, hwithin⟩
      rcases ih out' blanks' (Nat.lt_of_lt_of_le hm hwithin.column) with ⟨m'', hrest, hmore⟩
      refine ⟨m'', ?_, (hwithin.trans hmore).mono ?_⟩
      · rw [List.flatMap_cons, List.append_assoc, hread, hrest, hheld, List.reverse_cons,
          List.append_assoc]
        rfl
      · rw [octets_cons]
        omega

/-- A text in double quotes is read back from after the opening quote. -/
theorem readDouble_write (cs : List Char) {m : Mark} (hm : 0 < m.column) (rest : List Char) :
    ∃ m', readDouble [] .empty m (cs.flatMap writeEscaped ++ '"' :: rest) =
      some (String.ofList cs, ⟨m', rest⟩) ∧ Mark.Within (4 * octets cs + 1) m m' :=
  readDouble_flatMap cs [] [] hm rest

/-! ### Single quotes -/

/-- What is held while single quotes are read, in front of the rest of the text. Spaces are not
    followed by a line break, and line breaks stand for themselves and are not followed by a
    space. -/
inductive Held (cs : List Char) : Bool → Gap → Prop
  | blanks (text : List Char) (h : text ≠ [] → ∀ c, cs.head? = some c → isBreak c = false) :
      Held cs false (.blanks text)
  | lines (first : Char) (more : List Char) (hfirst : first ≠ '\n') (h : cs.head? ≠ some ' ') :
      Held cs true (.lines (some first) more)

theorem readSingle_indentation (out : List Char) (first? : Option Char) (more : List Char)
    (m : Mark) (column : Nat) (cs : List Char) :
    readSingle out (.lines first? more) m (indentation column ++ cs) =
      readSingle out (.lines first? more) (m.steps column) cs :=
  pass_indentation (fun _ _ => rfl) m column cs

/-- One more character that is neither a break nor a space, after whatever is held. -/
theorem readSingle_cons (out : List Char) (gap : Gap) {m : Mark} (hm : 0 < m.column) {c : Char}
    (hbreak : isBreak c = false) (hgap : isGap c = false) (rest : List Char) :
    ∃ m', readSingle out gap m ((if c = '\'' then ['\'', '\''] else [c]) ++ rest) =
      readSingle (c :: (gap.folded ++ out)) .empty m' rest ∧ Mark.Within (2 * c.utf8Size) m m' := by
  have hsize := c.utf8Size_pos
  by_cases hquote : c = '\''
  · subst hquote
    exact ⟨m.steps 2, rfl, Mark.Within.steps m 2⟩
  · have hreturn := ne_return_of_unbroken hbreak
    have hcolumn : (decide (m.column = 0) && marksDocument (c :: rest)) = false := by
      rw [decide_eq_false (Nat.ne_of_gt hm), Bool.false_and]
    refine ⟨m.step c, ?_, (Mark.Within.step m c).mono (by omega)⟩
    rw [if_neg hquote, List.cons_append, List.nil_append, readSingle.eq_4 _ _ _ _ _
      (fun _ h => absurd h hreturn) (fun _ h => absurd h hquote) hquote, hbreak, hgap, hcolumn]
    rfl

/-- What is asked of the rest of a text in single quotes. -/
structure SingleText (cs : List Char) : Prop where
  writable : ∀ c ∈ cs, isWritable c = true
  fed : '\n' ∉ cs
  spaceBreak : hasSpaceBreak cs = false
  breakSpace : hasBreakSpace cs = false

namespace SingleText

variable {c : Char} {cs : List Char}

theorem tail (h : SingleText (c :: cs)) : SingleText cs where
  writable d hd := h.writable d (List.mem_cons_of_mem c hd)
  fed hfed := h.fed (List.mem_cons_of_mem c hfed)
  spaceBreak := hasPair_tail h.spaceBreak
  breakSpace := hasPair_tail h.breakSpace

end SingleText

theorem readSingle_writeSingle {column : Nat} (hcolumn : 0 < column) {cs : List Char}
    (h : SingleText cs) {afterBreak : Bool} {gap : Gap} (hgap : Held cs afterBreak gap)
    (out : List Char) {m : Mark} (hm : afterBreak = false → 0 < m.column) {rest : List Char}
    (hrest : rest.head? ≠ some '\'') :
    ∃ m', readSingle out gap m (writeSingle column afterBreak cs ++ '\'' :: rest) =
      some (String.ofList ((gap.folded ++ out).reverse ++ cs), ⟨m', rest⟩) ∧
        (afterBreak = false → (∀ c ∈ cs, isBreak c = false) →
          Mark.Within (2 * octets cs + 1) m m') := by
  induction cs generalizing afterBreak gap out m with
  | nil =>
      have hend : ∀ (gap : Gap) (m : Mark), readSingle out gap m ('\'' :: rest) =
          some (String.ofList (gap.folded ++ out).reverse, ⟨m.steps 1, rest⟩) := by
        intro gap m
        refine readSingle.eq_3 out gap m rest fun tail heq => hrest ?_
        rw [heq]
        rfl
      rw [List.append_nil]
      cases hgap with
      | blanks text hblanks =>
          exact ⟨m.steps 1, hend _ m, fun _ _ => Mark.Within.steps m 1⟩
      | lines first more hfirst hhead =>
          refine ⟨(m.steps column).steps 1, ?_, fun h => by cases h⟩
          rw [writeSingle, if_pos rfl, readSingle_indentation]
          exact hend _ _
  | cons c cs ih =>
      have hwrite := h.writable c List.mem_cons_self
      have hfeed : c ≠ '\n' := fun heq => h.fed (heq ▸ List.mem_cons_self)
      have hreturn := ne_return_of_isWritable hwrite
      by_cases hbreak : isBreak c = true
      · have hquote : c ≠ '\'' := by
          rintro rfl
          cases hbreak
        have hhead : cs.head? ≠ some ' ' := fun heq => by
          cases hasPair_head h.breakSpace hbreak heq
        have hnext : ∀ tail, readSingle out gap m (c :: tail) =
            readSingle out (gap.addBreak c) (m.newline c.utf8Size) tail := by
          intro tail
          rw [readSingle.eq_4 _ _ _ _ _ (fun _ h => absurd h hreturn) (fun _ h => absurd h hquote)
            hquote, hbreak]
          rfl
        rw [writeSingle, if_pos hbreak, List.cons_append, hnext]
        cases hgap with
        | blanks text hblanks =>
            -- No spaces are held, since a line break could not follow them.
            cases text with
            | nil =>
                rcases ih h.tail (.lines c [] hfeed hhead) out (fun h => by cases h) with
                  ⟨m', hread, -⟩
                refine ⟨m', ?_, fun _ hnone => ?_⟩
                · rw [Gap.addBreak, lineBreak_of_isWritable hwrite hbreak, hread]
                  simp [Gap.folded, hfeed]
                · rw [hnone c List.mem_cons_self] at hbreak
                  cases hbreak
            | cons b text =>
                rw [hblanks (List.cons_ne_nil b text) c rfl] at hbreak
                cases hbreak
        | lines first more hfirst hhead' =>
            rcases ih h.tail (.lines first (c :: more) hfirst hhead) out (fun h => by cases h) with
              ⟨m', hread, -⟩
            refine ⟨m', ?_, fun h => by cases h⟩
            rw [Gap.addBreak, lineBreak_of_isWritable hwrite hbreak, hread]
            simp [Gap.folded, hfirst]
      · rw [Bool.not_eq_true] at hbreak
        rw [writeSingle, if_neg (hbreak ▸ Bool.false_ne_true)]
        -- A character that is no space ends the gap, whatever the gap is.
        have hword : c ≠ ' ' → ∀ (gap : Gap) {m : Mark}, 0 < m.column →
            ∃ m', readSingle out gap m ((if c = '\'' then ['\'', '\''] else [c]) ++
              (writeSingle column false cs ++ '\'' :: rest)) =
                some (String.ofList ((gap.folded ++ out).reverse ++ c :: cs), ⟨m', rest⟩) ∧
              ((∀ d ∈ cs, isBreak d = false) →
                Mark.Within (2 * c.utf8Size + (2 * octets cs + 1)) m m') := by
          intro hspace gap m hm
          have hgap := isGap_eq_false_iff.mpr ⟨hspace, ne_tab_of_isWritable hwrite⟩
          rcases readSingle_cons out gap hm hbreak hgap
            (writeSingle column false cs ++ '\'' :: rest) with ⟨m₁, hread, hwithin⟩
          rcases ih h.tail (.blanks [] (absurd rfl)) (c :: (gap.folded ++ out)) (m := m₁)
            (fun _ => Nat.lt_of_lt_of_le hm hwithin.column) with ⟨m₂, hrest, hmore⟩
          refine ⟨m₂, ?_, fun hnone => hwithin.trans (hmore rfl hnone)⟩
          rw [hread, Gap.empty, hrest]
          simp [Gap.folded]
        cases hgap with
        | blanks text hblanks =>
            rw [if_neg Bool.false_ne_true, List.nil_append, List.append_assoc]
            by_cases hspace : c = ' '
            · subst hspace
              have hnext : ∀ tail, readSingle out (.blanks text) m (' ' :: tail) =
                readSingle out (.blanks (' ' :: text)) (m.step ' ') tail := fun _ => rfl
              rcases ih h.tail
                (.blanks (' ' :: text) fun _ d hd => hasPair_head h.spaceBreak rfl hd) out
                (m := m.step ' ') (fun _ => Nat.succ_pos _) with ⟨m', hread, hwithin⟩
              refine ⟨m', ?_, fun _ hnone => ?_⟩
              · rw [if_neg (by decide), List.cons_append, List.nil_append, hnext, hread]
                simp [Gap.folded]
              · have hmore := hwithin rfl fun d hd => hnone d (List.mem_cons_of_mem ' ' hd)
                refine ((Mark.Within.step m ' ').trans hmore).mono ?_
                rw [octets_cons]
                omega
            · rcases hword hspace (.blanks text) (hm rfl) with ⟨m', hread, hwithin⟩
              refine ⟨m', hread, fun _ hnone => ?_⟩
              refine (hwithin fun d hd => hnone d (List.mem_cons_of_mem c hd)).mono ?_
              rw [octets_cons]
              omega
        | lines first more hfirst hhead =>
            have hspace : c ≠ ' ' := fun heq => hhead (heq ▸ rfl)
            rcases hword hspace (.lines (some first) more) (m := m.steps column)
              (Nat.add_pos_right _ hcolumn) with ⟨m', hread, -⟩
            refine ⟨m', ?_, fun h => by cases h⟩
            rw [if_pos rfl, List.append_assoc, List.append_assoc, readSingle_indentation]
            exact hread

theorem singleText_of_allowsSingle {cs : List Char} (hfeed : '\n' ∉ cs)
    (h : allowsSingle cs = true) : SingleText cs := by
  unfold allowsSingle at h
  simp only [Bool.and_eq_true, Bool.not_eq_true', List.all_eq_true] at h
  exact ⟨h.1.1, hfeed, h.1.2, h.2⟩

/-- Reading in single quotes never goes back to an earlier line. -/
theorem line_le_readSingle {out : List Char} {gap : Gap} {m : Mark} {cs : List Char}
    {text : String} {next : Cursor} (h : readSingle out gap m cs = some (text, next)) :
    m.line ≤ next.mark.line := by
  fun_induction readSingle out gap m cs with
  | case1 out gap m cs ih => exact Nat.le_trans (Nat.le_succ _) (ih h)
  | case2 out gap m cs ih => exact ih h
  | case3 out gap m cs hend =>
      cases h
      exact Nat.le_refl _
  | case4 out gap m c cs hcrlf hpair hquote hbreak ih =>
      exact Nat.le_trans (Nat.le_succ _) (ih h)
  | case5 out gap m c cs hcrlf hpair hquote hbreak hgap ih => exact ih h
  | case6 => cases h
  | case7 out gap m c cs hcrlf hpair hquote hbreak hgap hmarks ih => exact ih h
  | case8 => cases h

/-- A text that suits single quotes is read back from after the opening quote. -/
theorem readSingle_write {column : Nat} (hcolumn : 0 < column) {cs : List Char}
    (h : SingleText cs) {m : Mark} (hm : 0 < m.column) {rest : List Char}
    (hrest : rest.head? ≠ some '\'') :
    ∃ m', readSingle [] .empty m (writeSingle column false cs ++ '\'' :: rest) =
      some (String.ofList cs, ⟨m', rest⟩) ∧
        m.line ≤ m'.line ∧
          ((∀ c ∈ cs, isBreak c = false) → Mark.Within (2 * octets cs + 1) m m') := by
  rcases readSingle_writeSingle hcolumn h (.blanks [] (absurd rfl)) [] (fun _ => hm) hrest with
    ⟨m', hread, hwithin⟩
  exact ⟨m', hread, line_le_readSingle hread, hwithin rfl⟩

end Yaml

end Manuscript
