import Manuscript.Proofs.Yaml.Printed
import Manuscript.Proofs.Yaml.Scalar.Literal
import Manuscript.Proofs.Yaml.Scalar.Plain
import Manuscript.Proofs.Yaml.Scalar.Quoted
import Manuscript.Proofs.Yaml.Token.Scanning

/-!
# Scanning Scalars

The token of a scalar that was written. A scalar stands in one of two places. It
ends its line, and then the next line is where the scanner goes on; or it is a
short name, and a colon comes after it.

In either place the candidate for a key matters. The colon finds the name as the
candidate, on the same line and near enough. A scalar that ends its line may
leave a candidate behind as well, which no later colon can be taken for, since it
is on an earlier line by then.

## Main definitions

* `Yaml.Layout.noted`: The candidate after a node.
* `Yaml.Layout.Resumes`: The tokens that the next line leads to.

## Theorems

* `Yaml.Layout.scans_plain`, `Yaml.Layout.scans_text`: A scalar that ends its line.
* `Yaml.Layout.scans_shortKey`: A short name and its colon.
-/

namespace Manuscript

namespace Yaml

namespace Layout

variable {tokens ts : List Token} {indents : List Nat} {key? : Option KeyCandidate}
  {keyAllowed : Bool} {m : Mark} {cs rest tail : List Char} {outer : Nat}

/-- The candidate after a node that starts at the mark. -/
def noted (ts : List Token) (indents : List Nat) (key? : Option KeyCandidate) (keyAllowed : Bool)
    (m : Mark) : Option KeyCandidate :=
  if keyAllowed then some ⟨indents.head? = some m.column, ts.length, m⟩ else key?

theorem noteKey?_block (hkey : Stale key? m) (rest : List Char) :
    (block ts indents ⟨m, rest⟩ key? keyAllowed).noteKey? =
      some (block ts indents ⟨m, rest⟩ (noted ts indents key? keyAllowed m) keyAllowed) := by
  cases keyAllowed with
  | false => rfl
  | true =>
      have hdrop : (block ts indents ⟨m, rest⟩ key? true).dropKey? =
        some (block ts indents ⟨m, rest⟩ none true) := dropKey?_block hkey ⟨m, rest⟩
      unfold noteKey?
      rw [hdrop]
      rfl

/-! ### Plain scalars -/

/-- A plain text starts with no indicator, and the three that can start one do so only where no word
    ends after them. -/
theorem indicators_of_plainText {c : Char} (h : PlainText (c :: cs)) :
    ((c = '-' ∨ c = '?' ∨ c = ':') ∧ endsWord cs = false) ∨
      (c ≠ '-' ∧ c ≠ '?' ∧ c ≠ ':' ∧ c ∉ "#,[]\x7b\x7d&*!|>'\"%@`".toList) := by
  have hstart := h.start
  unfold startsWithIndicator at hstart
  split at hstart
  · cases hstart
  · cases hstart
  · next heq =>
      rcases List.cons_eq_cons.mp heq with ⟨rfl, rfl⟩
      split at hstart
      case isTrue hc =>
        simp only [Bool.or_eq_true, decide_eq_true_eq] at hc
        exact .inl ⟨or_assoc.mp hc, hstart⟩
      case isFalse hc =>
        simp only [Bool.or_eq_true, decide_eq_true_eq, not_or] at hc
        refine .inr ⟨hc.1.1, hc.1.2, hc.2, fun hmem => ?_⟩
        rw [List.contains_iff_mem.mpr hmem] at hstart
        cases hstart
  · next heq => cases heq

/-- The characters that can start a plain scalar in some places are read as such where a plain text
    starts with them. -/
theorem token?_plain {c : Char} (h : PlainText (c :: cs))
    (hmark : m.column = 0 → marksDocument (c :: (cs ++ rest)) = false) :
    (block ts indents ⟨m, c :: (cs ++ rest)⟩ key? keyAllowed).token? =
      (block ts indents ⟨m, c :: (cs ++ rest)⟩ key? keyAllowed).plain? := by
  -- The first tests are about the start of a line, so its column is told from all others.
  have hmarks :
      (decide ((block ts indents ⟨m, c :: (cs ++ rest)⟩ key? keyAllowed).cursor.column = 0) &&
        marksDocument (c :: (cs ++ rest))) = false := by
    rw [Bool.and_eq_false_iff, decide_eq_false_iff_not]
    exact Decidable.or_iff_not_imp_left.mpr fun hzero => hmark (Decidable.not_not.mp hzero)
  rcases indicators_of_plainText h with ⟨hc, hends⟩ | ⟨hdash, hquestion, hcolon, hnone⟩
  · have hne : cs ≠ [] := by
      rintro rfl
      cases hends
    have hword : endsWord (cs ++ rest) = false := (endsWord_append hne rest).trans hends
    have hgap : (cs ++ rest).head?.any isGap = false := by
      cases cs with
      | nil => exact absurd rfl hne
      | cons d cs => exact (Bool.or_eq_false_iff.mp hends).1
    rw [block] at hmarks ⊢
    rcases hc with rfl | rfl | rfl
    · simp only [token?, hmarks, hword, hgap, startsPlain]
      simp
    · simp only [token?, hmarks, hword, startsPlain]
      simp [inFlow]
    · simp only [token?, hmarks, hword, startsPlain]
      simp [inFlow]
  · have hnot (d : Char) (hd : d ∈ "#,[]\x7b\x7d&*!|>'\"%@`".toList) : c ≠ d :=
      fun heq => hnone (heq ▸ hd)
    have hsame : ∀ d ∈ ",[]\x7b\x7d#&*!|>'\"%@`".toList, d ∈ "#,[]\x7b\x7d&*!|>'\"%@`".toList :=
      forall_mem_of_all (by decide)
    have hother : ",[]\x7b\x7d#&*!|>'\"%@`".toList.contains c = false := by
      rw [← Bool.not_eq_true, List.contains_iff_mem]
      exact fun hmem => hnone (hsame c hmem)
    have hplain : startsPlain false (c :: (cs ++ rest)) = true := by
      simp only [startsPlain, hdash, hquestion, hcolon, decide_false, Bool.or_false,
        Bool.false_eq_true, if_false, h.noGap, hother, Bool.not_false]
    have hflow : (block ts indents ⟨m, c :: (cs ++ rest)⟩ key? keyAllowed).inFlow = false := rfl
    rw [block] at hmarks hflow ⊢
    simp only [token?, hmarks, hflow, hplain, hdash, hquestion, hcolon, hnot '%' (by decide),
      hnot '[' (by decide), hnot ']' (by decide), hnot '{' (by decide), hnot '}' (by decide),
      hnot ',' (by decide), hnot '*' (by decide), hnot '&' (by decide), hnot '!' (by decide),
      hnot '|' (by decide), hnot '>' (by decide), hnot '\'' (by decide), hnot '"' (by decide),
      decide_false, Bool.and_false, Bool.false_and, Bool.false_eq_true, if_false, if_true]

theorem next?_plain (h : PlainText cs) (hne : cs ≠ [])
    (hindent : ∀ outer ∈ indents.head?, outer ≤ m.column)
    (hmark : m.column = 0 → marksDocument (cs ++ rest) = false) {found : PlainScalar}
    (hread : readPlain false (indents.head?.elim 0 (· + 1)) [] .empty m (cs ++ rest) = some found)
    (hkey : Stale key? m) :
    (block ts indents ⟨m, cs ++ rest⟩ key? keyAllowed).next? =
      some (block (.scalar .plain found.text :: ts) indents found.next
        (noted ts indents key? keyAllowed m) found.endsLine) := by
  cases cs with
  | nil => exact absurd rfl hne
  | cons c cs =>
      rw [List.cons_append] at hread hmark ⊢
      rw [next?_word h.startsWord hindent, token?_plain h hmark]
      unfold plain?
      rw [noteKey?_block hkey, Option.bind_eq_bind, Option.bind_some]
      exact congrArg (Option.bind · _) hread

theorem next?_node {c : Char} (hc : StartsWord c)
    (hindent : ∀ outer ∈ indents.head?, outer ≤ m.column)
    {read : Cursor → Option (Token × Cursor)}
    (htoken : (block ts indents ⟨m, c :: rest⟩ key? keyAllowed).token? =
      (block ts indents ⟨m, c :: rest⟩ key? keyAllowed).node? read)
    {t : Token} {next : Cursor} (hread : read ⟨m, c :: rest⟩ = some (t, next))
    (hkey : Stale key? m) :
    (block ts indents ⟨m, c :: rest⟩ key? keyAllowed).next? =
      some (block (t :: ts) indents next (noted ts indents key? keyAllowed m) false) := by
  rw [next?_word hc hindent, htoken]
  unfold node?
  rw [noteKey?_block hkey, Option.bind_eq_bind, Option.bind_some]
  exact congrArg (Option.bind · _) hread

theorem token?_single : (block ts indents ⟨m, '\'' :: rest⟩ key? keyAllowed).token? =
    (block ts indents ⟨m, '\'' :: rest⟩ key? keyAllowed).node?
      (quoted .singleQuoted (readSingle [] .empty)) := by
  simp [token?, marksDocument, block]

theorem token?_double : (block ts indents ⟨m, '"' :: rest⟩ key? keyAllowed).token? =
    (block ts indents ⟨m, '"' :: rest⟩ key? keyAllowed).node?
      (quoted .doubleQuoted (readDouble [] .empty)) := by
  simp [token?, marksDocument, block]

theorem token?_literal : (block ts indents ⟨m, '|' :: rest⟩ key? keyAllowed).token? =
    (block ts indents ⟨m, '|' :: rest⟩ key? keyAllowed).block? .literal := by
  simp [token?, marksDocument, block, inFlow]

/-! ### Scalars that end their line -/

/-- The tokens that the next line leads to, wherever that line is. -/
def Resumes (ts : List Token) (indents : List Nat) (tail : List Char) (tokens : List Token) :
    Prop :=
  ∀ m key?, m.column = 0 → Stale key? m →
    (block ts indents (lineStart m tail) key? true).Scans tokens

theorem stale_noted (hm : outer < m.column) (hkey : Stale key? m) {m' : Mark}
    (hline : m.line < m'.line) : Stale (noted ts (outer :: indents) key? keyAllowed m) m' := by
  intro k hk
  cases keyAllowed with
  | false =>
      have hold := hkey k hk
      exact ⟨hold.1, Nat.lt_trans hold.2 hline⟩
  | true =>
      -- Only a node at the column of the collection has to be a key, and this one is deeper.
      cases hk
      exact ⟨decide_eq_false fun heq => Nat.ne_of_lt hm (Option.some.inj heq), hline⟩

theorem outer_le_of_lt (hm : outer < m.column) :
    ∀ o ∈ (outer :: indents).head?, o ≤ m.column := by
  intro o ho
  rw [List.head?_cons, Option.mem_some_iff] at ho
  omega

theorem scans_plain (h : PlainText cs) (hne : cs ≠ []) (htail : Follows outer tail)
    (hm : outer < m.column) (hkey : Stale key? m)
    (hrest : Resumes (.scalar .plain (String.ofList cs) :: ts) (outer :: indents) tail tokens) :
    (block ts (outer :: indents) ⟨m, cs ++ '\n' :: tail⟩ key? keyAllowed).Scans tokens := by
  have hmark : m.column = 0 → marksDocument (cs ++ '\n' :: tail) = false := by
    intro hzero
    omega
  have hread : readPlain false (outer + 1) [] .empty m (cs ++ '\n' :: tail) =
      some ⟨String.ofList cs, true, lineStart ((m.past cs).newline 1) tail⟩ := by
    rw [Gap.empty, readPlain_append _ h.rest [] hmark,
      readPlain_line (Nat.lt_succ_self _) _ _ htail, List.append_nil, List.append_nil,
      List.reverse_reverse]
    rfl
  have hline : m.line < ((m.past cs).newline 1).line :=
    Nat.lt_succ_of_le (Nat.le_of_eq (Mark.Within.past m cs).line.symm)
  have hless := length_lineStart_le htail ((m.past cs).newline 1)
  refine (hrest _ _ rfl (stale_noted hm hkey hline)).step
    (next?_plain h hne (outer_le_of_lt hm) hmark hread hkey) ?_
  simp only [block, List.length_append, List.length_cons]
  omega

/-- After a token that is not at the end of its line yet. -/
theorem scans_node {t : Token} {m' : Mark} {cs : List Char} (htail : Follows outer tail)
    (hm : outer < m.column) (hkey : Stale key? m) (hline : m.line ≤ m'.line)
    (hnext : (block ts (outer :: indents) ⟨m, cs⟩ key? keyAllowed).next? =
      some (block (t :: ts) (outer :: indents) ⟨m', '\n' :: tail⟩
        (noted ts (outer :: indents) key? keyAllowed m) false))
    (hless : tail.length + 1 < cs.length)
    (hrest : Resumes (t :: ts) (outer :: indents) tail tokens) :
    (block ts (outer :: indents) ⟨m, cs⟩ key? keyAllowed).Scans tokens := by
  have hstale : Stale (noted ts (outer :: indents) key? keyAllowed m) (m'.newline 1) :=
    stale_noted hm hkey (Nat.lt_succ_of_le hline)
  exact (Scans.newline htail (hrest _ _ rfl hstale)).step hnext hless

theorem endLine_of_unbroken {cs : List Char} (h : ∀ c ∈ cs.getLast?, isBreak c = false) :
    endLine cs = cs ++ ['\n'] := by
  rw [endLine, if_neg]
  intro hbreak
  cases hlast : cs.getLast? with
  | none =>
      rw [hlast] at hbreak
      cases hbreak
  | some c =>
      rw [hlast, Option.any_some, h c hlast] at hbreak
      cases hbreak

/-- A text that ends its line, in whatever style it is written. -/
theorem scans_text (s : String) (htail : Follows outer tail) (hm : outer < m.column)
    (hkey : Stale key? m)
    (hrest : Resumes (.scalar (styleOf s) s :: ts) (outer :: indents) tail tokens) :
    (block ts (outer :: indents) ⟨m, endLine (writeScalar (outer + 2) s) ++ tail⟩ key?
      keyAllowed).Scans tokens := by
  have hsuits := suits_styleOf s
  unfold writeScalar
  generalize styleOf s = style at hsuits hrest ⊢
  have hquoted (q : Char) (cs : List Char) (hq : isBreak q = false) :
      endLine (q :: cs ++ [q]) ++ tail = q :: (cs ++ q :: '\n' :: tail) := by
    have hlast : ∀ c ∈ (q :: cs ++ [q]).getLast?, isBreak c = false := by
      intro c hc
      rw [List.getLast?_concat, Option.mem_some_iff] at hc
      exact hc ▸ hq
    rw [endLine_of_unbroken hlast]
    simp
  cases hsuits with
  | plain hneeds hallows =>
      have hplain := plainText_of_allowsPlain hallows
      rw [writeStyled, endLine_of_unbroken fun c hc => hplain.unbroken c (List.mem_of_getLast? hc),
        List.append_assoc]
      refine scans_plain hplain (toList_ne_nil_of_needsQuotes hneeds) htail hm hkey ?_
      rw [String.ofList_toList]
      exact hrest
  | singleQuoted hfeed hallows =>
      have htext := singleText_of_allowsSingle hfeed hallows
      have hquote : ('\n' :: tail).head? ≠ some '\'' := fun heq => by cases heq
      rcases readSingle_write (Nat.succ_pos (outer + 1)) htext (m := m.steps 1) (Nat.succ_pos _)
        hquote with ⟨m', hread, hline, -⟩
      rw [writeStyled, hquoted _ _ rfl]
      refine scans_node htail hm hkey hline
        (next?_node (by decide) (outer_le_of_lt hm) token?_single ?_ hkey) ?_ hrest
      · rw [String.ofList_toList] at hread
        exact congrArg (Option.bind · _) hread
      · simp only [List.length_cons, List.length_append]
        omega
  | literal hfeed hallows =>
      unfold allowsLiteral at hallows
      simp only [Bool.and_eq_true, List.all_eq_true] at hallows
      rcases readBlock?_write hallows.1.1 (List.ne_nil_of_mem hfeed) m htail with ⟨m', hread, hm'⟩
      rw [String.ofList_toList] at hread
      have hwrite : ∃ cs, endLine (writeStyled (outer + 2) s.toList .literal) = '|' :: cs :=
        ⟨_, endLine_literal _ _⟩
      rcases hwrite with ⟨cs, hwrite⟩
      rw [hwrite, List.cons_append] at hread ⊢
      have hnext : (block ts (outer :: indents) ⟨m, '|' :: (cs ++ tail)⟩ key? keyAllowed).next? =
          some (block (.scalar .literal s :: ts) (outer :: indents) (lineStart m' tail) none
            true) := by
        rw [next?_word (by decide) (outer_le_of_lt hm), token?_literal]
        unfold block?
        rw [dropKey?_block hkey, Option.bind_eq_bind, Option.bind_some]
        exact congrArg (Option.bind · _) hread
      refine (hrest m' none hm' (stale_none m')).step hnext ?_
      have hless := length_lineStart_le htail m'
      simp only [block, List.length_cons, List.length_append]
      omega
  | doubleQuoted =>
      rcases readDouble_write s.toList (m := m.steps 1) (Nat.succ_pos _) ('\n' :: tail) with
        ⟨m', hread, hwithin⟩
      have hwrite : writeStyled (outer + 2) s.toList .doubleQuoted =
        '"' :: s.toList.flatMap writeEscaped ++ ['"'] := rfl
      rw [hwrite, hquoted _ _ rfl]
      refine scans_node htail hm hkey (Nat.le_of_eq hwithin.line.symm)
        (next?_node (by decide) (outer_le_of_lt hm) token?_double ?_ hkey) ?_ hrest
      · rw [String.ofList_toList] at hread
        exact congrArg (Option.bind · _) hread
      · simp only [List.length_cons, List.length_append]
        omega

/-! ### Short keys -/

/-- A short name is read up to its colon, which is not too far away from where it starts. -/
theorem next?_name {name : String} (hname : isShortKey name = true) (column : Nat)
    (hindent : ∀ outer ∈ indents.head?, outer ≤ m.column) (hkey : Stale key? m)
    (hends : endsWord rest = true) :
    ∃ m', (block ts indents ⟨m, writeScalar (column + 2) name ++ ':' :: rest⟩ key? true).next? =
      some (block (.scalar (styleOf name) name :: ts) indents ⟨m', ':' :: rest⟩
        (some ⟨indents.head? = some m.column, ts.length, m⟩) false) ∧ Mark.Within 1024 m m' := by
  rw [isShortKey, Bool.and_eq_true, Bool.not_eq_true', List.any_eq_false, decide_eq_true_eq,
    ← octets_toList] at hname
  have hlength := hname.2
  have hsuits := suits_styleOf name
  unfold writeScalar
  generalize styleOf name = style at hsuits ⊢
  cases hsuits with
  | plain hneeds hallows =>
      have hplain := plainText_of_allowsPlain hallows
      have hmark : m.column = 0 → marksDocument (name.toList ++ ':' :: rest) = false := by
        refine fun _ => hplain.marksDocument_append fun c hc => ?_
        cases hc
        decide
      have hread : readPlain false (indents.head?.elim 0 (· + 1)) [] .empty m
          (name.toList ++ ':' :: rest) = some ⟨name, false, ⟨m.past name.toList, ':' :: rest⟩⟩ := by
        rw [Gap.empty, readPlain_append _ hplain.rest [] hmark, readPlain_colon _ _ hends,
          List.append_nil, List.append_nil, List.reverse_reverse, String.ofList_toList]
      exact ⟨m.past name.toList,
        next?_plain hplain (toList_ne_nil_of_needsQuotes hneeds) hindent hmark hread hkey,
        (Mark.Within.past m name.toList).mono (by omega)⟩
  | singleQuoted hfeed hallows =>
      have hquote : (':' :: rest).head? ≠ some '\'' := by
        rw [List.head?_cons]
        decide
      rcases readSingle_write (Nat.succ_pos (column + 1)) (singleText_of_allowsSingle hfeed hallows)
        (m := m.steps 1) (Nat.succ_pos _) hquote with ⟨m', hread, -, hwithin⟩
      have hname' := hwithin fun c hc => Bool.not_eq_true _ ▸ hname.1 c hc
      refine ⟨m', ?_, ((Mark.Within.steps m 1).trans hname').mono (by omega)⟩
      rw [writeStyled, List.append_assoc]
      refine next?_node (by decide) hindent token?_single ?_ hkey
      rw [String.ofList_toList] at hread
      exact congrArg (Option.bind · _) hread
  -- A text of several lines is no short key, whatever its length.
  | literal hfeed => exact absurd rfl (hname.1 _ hfeed)
  | doubleQuoted =>
      rcases readDouble_write name.toList (m := m.steps 1) (Nat.succ_pos _) (':' :: rest) with
        ⟨m', hread, hwithin⟩
      refine ⟨m', ?_, ((Mark.Within.steps m 1).trans hwithin).mono (by omega)⟩
      have hwrite : writeStyled (column + 2) name.toList .doubleQuoted ++ ':' :: rest =
          '"' :: (name.toList.flatMap writeEscaped ++ '"' :: ':' :: rest) :=
        List.append_assoc ('"' :: name.toList.flatMap writeEscaped) ['"'] (':' :: rest)
      rw [hwrite]
      refine next?_node (by decide) hindent token?_double ?_ hkey
      rw [String.ofList_toList] at hread
      exact congrArg (Option.bind · _) hread

variable {ts' : List Token} {indents' : List Nat} {column : Nat}

theorem value?_of_isOpen {l : Layout} {k : KeyCandidate} (hkey : l.key? = some k)
    (hopen : k.isOpen l.cursor.mark = true) : l.value? = some (l.closeKey k) := by
  unfold value?
  rw [hkey, Option.filter_some, if_pos hopen]

/-- The colon makes the name before it a key, and opens the mapping if need be. -/
theorem next?_colon {t : Token} {m' : Mark} {required : Bool} (hends : endsWord rest = true)
    (hopens : Opens column .blockMappingStart ts indents ts' indents') (hm : m.column = column)
    (hwithin : Mark.Within 1024 m m') :
    (block (t :: ts) indents ⟨m', ':' :: rest⟩ (some ⟨required, ts.length, m⟩) false).next? =
      some (block (.value :: t :: .key :: ts') indents' ⟨m'.steps 1, rest⟩ none false) := by
  have hindent : ∀ outer ∈ indents.head?, outer ≤ m'.column := fun outer houter =>
    Nat.le_trans (hopens.outer_le outer houter) (hm ▸ hwithin.column)
  have htoken (l : Layout) (hl : l.cursor = ⟨m', ':' :: rest⟩) : l.token? = l.value? := by
    simp [token?, hl, marksDocument, hends]
  have hopen : (⟨required, ts.length, m⟩ : KeyCandidate).isOpen m' = true := by
    rw [KeyCandidate.isOpen, decide_eq_true hwithin.line.symm, decide_eq_true hwithin.index]
    rfl
  rw [next?_word (by decide) hindent, htoken _ rfl, value?_of_isOpen rfl hopen]
  -- The name was noted before it was read, so its place is in front of the token it became.
  have hinsert : (block (t :: ts) indents ⟨m', ':' :: rest⟩ none false).insert ts.length .key =
    block ([t, .key] ++ ts) indents ⟨m', ':' :: rest⟩ none false := insert_block [t] ts _ _ _ _ .key
  have hclose : (block (t :: ts) indents ⟨m', ':' :: rest⟩ (some ⟨required, ts.length, m⟩)
      false).closeKey ⟨required, ts.length, m⟩ =
        (((block (t :: ts) indents ⟨m', ':' :: rest⟩ none false).insert ts.length .key).indentTo
          m.column ts.length .blockMappingStart).indicator .value 1 false := rfl
  rw [hclose, hinsert, hm, hopens.indentTo]
  rfl

/-- A short key up to its value. -/
theorem scans_shortKey {name : String} (hname : isShortKey name = true)
    (hopens : Opens column .blockMappingStart ts indents ts' indents') (hm : m.column = column)
    (hkey : Stale key? m) (hends : endsWord rest = true)
    (h : ∀ m', column < m'.column → (block (.value :: .scalar (styleOf name) name :: .key :: ts')
      indents' ⟨m', rest⟩ none false).Scans tokens) :
    (block ts indents ⟨m, writeScalar (column + 2) name ++ ':' :: rest⟩ key? true).Scans
      tokens := by
  rcases next?_name hname column (hm ▸ hopens.outer_le) hkey hends with ⟨m', hnext, hwithin⟩
  have hafter : column < (m'.steps 1).column := Nat.lt_succ_of_le (hm ▸ hwithin.column)
  refine ((h _ hafter).step (next?_colon hends hopens hm hwithin)
    (Nat.lt_succ_self _)).step hnext ?_
  rcases writeScalar_starts (column + 2) name with ⟨c, cs, heq, -⟩
  rw [heq]
  simp only [block, List.length_cons, List.length_append]
  omega

end Layout

end Yaml

end Manuscript
