import Manuscript.Proofs.Yaml.Cursor
import Manuscript.Yaml.Token.Reading

/-!
# Scanning Block Text

What the steps of the scanner do outside of flow collections, for a text of
which it is known what comes next. A text is followed from its end: from where
the tokens lead on from a place, it follows where they lead on from the place
before. In this way nothing has to be said about how many steps are taken, only
that every step reads something.

The layout of such a place is settled by few things. `Layout.block` names them,
and `Opens` says what becomes of them where a collection may begin. A collection
ends without a character of its own, when the next line turns out not to be
indented as far, so its end can be told from the line that follows.

## Main definitions

* `Yaml.Layout.Scans`: The tokens that a layout leads to.
* `Yaml.Layout.block`: A layout outside of flow collections.
* `Yaml.lineStart`: The first word after a line break.
* `Yaml.Layout.Stale`: The candidate for a key is out of date.
* `Yaml.Opens`: The start of a block collection, unless it is open already.

## Theorems

* `Yaml.Layout.Scans.step`: One step of the scanner.
* `Yaml.Layout.Scans.close`: The end of a block collection.
* `Yaml.Layout.Scans.blockEntry`, `Yaml.Layout.Scans.keyEntry`: The indicators of entries.
-/

namespace Manuscript

namespace Yaml

/-- The first word after a line break, which comes before the mark. -/
def lineStart (m : Mark) (cs : List Char) : Cursor := (toToken false true false m cs).2

theorem lineStart_indentation {cs : List Char} (h : Starts cs) (m : Mark) (k : Nat) :
    lineStart m (indentation k ++ cs) = ⟨m.steps k, cs⟩ := by
  rcases h with ⟨c, rest, rfl, hc⟩
  rw [lineStart, toToken_line hc]

/-- The first word is not after more than there is. -/
theorem length_lineStart_le {limit : Nat} {cs : List Char} (h : Follows limit cs) (m : Mark) :
    (lineStart m cs).rest.length ≤ cs.length := by
  cases h with
  | finish => exact Nat.le_refl _
  | @line k hk c hc cs =>
      rw [lineStart, toToken_line hc, List.length_append]
      exact Nat.le_add_left _ _

namespace Layout

/-- The scanner ends with these tokens from here on, if it may take enough steps. -/
def Scans (l : Layout) (tokens : List Token) : Prop :=
  ∀ steps, l.cursor.rest.length < steps → l.run? steps = some tokens

variable {l l' : Layout} {tokens : List Token}

theorem next?_finish (h : l.cursor.rest = []) : l.next? = some l := by
  rcases l with ⟨⟨m, rest⟩, ts, count, indents, key?, outerKeys, keyAllowed⟩
  cases h
  rfl

theorem run?_finish (h : l.cursor.rest = []) (steps : Nat) : l.run? (steps + 1) = l.finish? := by
  rw [run?, next?_finish h]
  simp only [h, List.isEmpty_nil, if_true]

namespace Scans

theorem of_finish? (hrest : l.cursor.rest = []) (h : l.finish? = some tokens) : l.Scans tokens := by
  intro steps hsteps
  cases steps with
  | zero => exact absurd hsteps (Nat.not_lt_zero _)
  | succ steps => exact (run?_finish hrest steps).trans h

theorem finish? (h : l.Scans tokens) (hrest : l.cursor.rest = []) : l.finish? = some tokens := by
  rw [← run?_finish hrest l.cursor.rest.length]
  exact h _ (Nat.lt_succ_self _)

/-- A step that reads something. -/
theorem step (h : l'.Scans tokens) (hnext : l.next? = some l')
    (hless : l'.cursor.rest.length < l.cursor.rest.length) : l.Scans tokens := by
  intro steps hsteps
  cases steps with
  | zero => exact absurd hsteps (Nat.not_lt_zero _)
  | succ steps =>
      rw [run?, hnext]
      -- Where nothing is left `run?` finishes at once, and does not take the steps it still has.
      by_cases hrest : l'.cursor.rest = []
      · simp only [hrest, List.isEmpty_nil, if_true]
        exact h.finish? hrest
      · have hmore : l'.cursor.rest.isEmpty = false := by
          rw [← Bool.not_eq_true, List.isEmpty_iff]
          exact hrest
        simp only [hmore, Bool.false_eq_true, if_false]
        exact h steps (by omega)

/-- Layouts with the same next step have the same tokens. -/
theorem congr (h : l'.Scans tokens) (hnext : l.next? = l'.next?)
    (hle : l'.cursor.rest.length ≤ l.cursor.rest.length) : l.Scans tokens := by
  intro steps hsteps
  rw [← h steps (Nat.lt_of_le_of_lt hle hsteps)]
  cases steps with
  | zero => rfl
  | succ steps => rw [run?, run?, hnext]

end Scans

/-- The layout at a cursor outside of flow collections. -/
def block (ts : List Token) (indents : List Nat) (cursor : Cursor) (key? : Option KeyCandidate)
    (keyAllowed : Bool) : Layout :=
  ⟨cursor, ts, ts.length, indents, key?, [], keyAllowed⟩

/-- Where a key may have started, this was on an earlier line, and it need not turn out to be
    one. -/
def Stale (key? : Option KeyCandidate) (m : Mark) : Prop :=
  ∀ k ∈ key?, k.required = false ∧ k.mark.line < m.line

theorem stale_none (m : Mark) : Stale none m := fun _ hk => absurd hk (Option.not_mem_none _)

section

variable {ts : List Token} {indents : List Nat} {key? : Option KeyCandidate} {keyAllowed : Bool}
  {m : Mark} {c : Char} {cs : List Char}

theorem dedentTo_block {column : Nat} (h : ∀ outer ∈ indents.head?, outer ≤ column)
    (cursor : Cursor) :
    (block ts indents cursor key? keyAllowed).dedentTo column =
      block ts indents cursor key? keyAllowed := by
  cases indents with
  | nil => rfl
  | cons outer rest =>
      have hkeep : decide (outer ≤ column) = true := decide_eq_true (h outer rfl)
      rw [dedentTo]
      simp only [block, inFlow, List.isEmpty_nil, Bool.not_true, Bool.false_eq_true, if_false,
        closeDeeper, hkeep, if_true]

/-- The next step depends on a cursor only by the token that comes next. -/
theorem next?_block {cursor next : Cursor} {allowed : Bool}
    (h : toToken false keyAllowed false cursor.mark cursor.rest = (allowed, next)) :
    (block ts indents cursor key? keyAllowed).next? =
      if next.rest.isEmpty then some (block ts indents next key? allowed)
      else ((block ts indents next key? allowed).dedentTo next.column).token? := by
  have hmove : toToken (block ts indents cursor key? keyAllowed).inFlow keyAllowed false cursor.mark
    cursor.rest = (allowed, next) := h
  unfold next?
  rw [show (block ts indents cursor key? keyAllowed).keyAllowed = keyAllowed from rfl,
    show (block ts indents cursor key? keyAllowed).cursor = cursor from rfl, hmove]
  rfl

/-- At a word that is indented far enough nothing is closed. -/
theorem next?_word (hc : StartsWord c) (h : ∀ outer ∈ indents.head?, outer ≤ m.column) :
    (block ts indents ⟨m, c :: cs⟩ key? keyAllowed).next? =
      (block ts indents ⟨m, c :: cs⟩ key? keyAllowed).token? := by
  rw [next?_block (toToken_word hc keyAllowed m cs)]
  exact congrArg token? (dedentTo_block h ⟨m, c :: cs⟩)

theorem dropKey?_block (h : Stale key? m) (cursor : Cursor) :
    (block ts indents cursor key? keyAllowed).dropKey? =
      some (block ts indents cursor none keyAllowed) := by
  cases key? with
  | none => rfl
  | some k =>
      have hfree : k.required = false := (h k rfl).1
      rw [dropKey?]
      simp only [block, hfree, Bool.false_eq_true, if_false]

end

/-- A token is put in front of those that were read since. -/
theorem insert_block (later ts : List Token) (indents : List Nat) (cursor : Cursor)
    (key? : Option KeyCandidate) (keyAllowed : Bool) (t : Token) :
    (block (later ++ ts) indents cursor key? keyAllowed).insert ts.length t =
      block (later ++ t :: ts) indents cursor key? keyAllowed := by
  have hinsert : (later ++ ts).insertIdx later.length t = later ++ t :: ts := by
    induction later with
    | nil => rfl
    | cons u later ih =>
        rw [List.cons_append, List.length_cons, List.insertIdx_succ_cons, ih]
        rfl
  have hplace : (block (later ++ ts) indents cursor key? keyAllowed).count - ts.length =
      later.length := by
    simp only [block, List.length_append, Nat.add_sub_cancel]
  have hcount : (later ++ ts).length + 1 = (later ++ t :: ts).length := by
    simp only [List.length_append, List.length_cons]
    omega
  rw [insert, hplace]
  simp only [block, hinsert, hcount]

/-- Which collections are open does not matter to closing those that are named. -/
theorem closeDeeper_indents (keep : Nat → Bool) (l : Layout) (indents columns : List Nat) :
    closeDeeper keep { l with indents } columns = closeDeeper keep l columns := by
  induction columns generalizing l with
  | nil => rfl
  | cons column rest ih =>
      rw [closeDeeper, closeDeeper]
      split
      · rfl
      · exact ih (l.push .blockEnd)

namespace Scans

variable {ts : List Token} {indents : List Nat} {key? : Option KeyCandidate} {keyAllowed : Bool}
  {m : Mark} {cs tail : List Char} {limit column : Nat}

/-! ### Between words -/

/-- A space in front of what comes next. -/
theorem space (h : (block ts indents ⟨m.steps 1, cs⟩ key? keyAllowed).Scans tokens) :
    (block ts indents ⟨m, ' ' :: cs⟩ key? keyAllowed).Scans tokens := by
  have hmove : toToken false keyAllowed false m (' ' :: cs) =
    toToken false keyAllowed false (m.steps 1) cs := rfl
  refine h.congr ?_ (Nat.le_succ _)
  rw [next?_block hmove, next?_block rfl]

/-- A line break in front of what comes next. -/
theorem newline (htail : Follows limit tail)
    (h : (block ts indents (lineStart (m.newline 1) tail) key? true).Scans tokens) :
    (block ts indents ⟨m, '\n' :: tail⟩ key? keyAllowed).Scans tokens := by
  have hmove : toToken false keyAllowed false m ('\n' :: tail) =
      toToken false true false (m.newline 1) tail := by
    cases keyAllowed <;> rfl
  cases htail with
  | finish =>
      refine h.congr ?_ (Nat.zero_le _)
      rw [next?_block hmove, next?_block rfl]
      rfl
  | @line k hk c hc cs =>
      rw [lineStart, toToken_line hc] at h
      refine h.congr ?_ ?_
      · rw [next?_block (hmove.trans (toToken_line hc true _ k cs)),
          next?_block (toToken_word hc true _ cs)]
      · simp only [block, List.length_cons, List.length_append]
        omega

/-- A collection ends before a line that is not indented as far. -/
theorem close (htail : Follows limit tail) (hlimit : limit < column) (hm : m.column = 0)
    (h : (block (.blockEnd :: ts) indents (lineStart m tail) key? true).Scans tokens) :
    (block ts (column :: indents) (lineStart m tail) key? true).Scans tokens := by
  have hindents (keep : Nat → Bool) (hkeep : keep column = false) (cursor : Cursor) :
      (block ts (column :: indents) cursor key? true).closeDeeper keep (column :: indents) =
        (block (.blockEnd :: ts) indents cursor key? true).closeDeeper keep indents := by
    rw [closeDeeper, hkeep, if_neg Bool.false_ne_true]
    exact closeDeeper_indents keep (block (.blockEnd :: ts) indents cursor key? true)
      (column :: indents) indents
  cases htail with
  | finish =>
      -- At the end of the text the collections are closed without a step.
      refine of_finish? rfl ?_
      rw [← h.finish? rfl]
      exact congrArg (fun l => (dropKey? l).bind fun l => some (l.push .finish).tokens.reverse)
        (hindents (fun _ => false) rfl (lineStart m []))
  | @line k hk c hc cs =>
      rw [lineStart, toToken_line hc] at h ⊢
      have hplace : (m.steps k).column = k := by rw [Mark.steps, hm, Nat.zero_add]
      have hkeep : decide (column ≤ k) = false := decide_eq_false (by omega)
      refine h.congr ?_ (Nat.le_refl _)
      rw [next?_block (toToken_word hc true _ cs), next?_block (toToken_word hc true _ cs)]
      refine congrArg token? ?_
      rw [dedentTo, dedentTo, Cursor.column, hplace]
      exact hindents (fun outer => decide (outer ≤ k)) hkeep ⟨m.steps k, c :: cs⟩

end Scans

end Layout

/-! ### Entries -/

/-- A block collection at a column begins, with a token for that, unless it is open already. -/
inductive Opens (column : Nat) (start : Token) :
    List Token → List Nat → List Token → List Nat → Prop
  | already (ts : List Token) (indents : List Nat) :
      Opens column start ts (column :: indents) ts (column :: indents)
  | deeper (ts : List Token) (indents : List Nat) (h : ∀ outer ∈ indents.head?, outer < column) :
      Opens column start ts indents (start :: ts) (column :: indents)

namespace Opens

variable {column : Nat} {start : Token} {ts ts' : List Token} {indents indents' : List Nat}

theorem of_lt {outer : Nat} (h : outer < column) (start : Token) (ts : List Token)
    (indents : List Nat) :
    Opens column start ts (outer :: indents) (start :: ts) (column :: outer :: indents) :=
  .deeper ts _ fun o ho => by
    rw [List.head?_cons, Option.mem_some_iff] at ho
    exact ho ▸ h

theorem outer_le (h : Opens column start ts indents ts' indents') :
    ∀ outer ∈ indents.head?, outer ≤ column := by
  intro outer houter
  cases h with
  | already =>
      rw [List.head?_cons, Option.mem_some_iff] at houter
      exact Nat.le_of_eq houter.symm
  | deeper _ hdeeper => exact Nat.le_of_lt (hdeeper outer houter)

/-- The token for the start comes in front of those that were read since. -/
theorem indentTo (h : Opens column start ts indents ts' indents') (later : List Token)
    (cursor : Cursor) (key? : Option KeyCandidate) (keyAllowed : Bool) :
    (Layout.block (later ++ ts) indents cursor key? keyAllowed).indentTo column ts.length start =
      Layout.block (later ++ ts') indents' cursor key? keyAllowed := by
  rw [Layout.indentTo]
  cases h with
  | already =>
      have hopen : decide (column ≤ column) = true := decide_eq_true (Nat.le_refl _)
      simp only [Layout.block, Layout.indent?, List.head?_cons, Option.any_some, hopen,
        Bool.or_true, if_true]
  | deeper _ hdeeper =>
      have hclosed : indents.head?.any (fun outer => decide (column ≤ outer)) = false := by
        cases houter : indents.head? with
        | none => rfl
        | some outer => exact decide_eq_false (Nat.not_le_of_lt (hdeeper outer houter))
      have hflow : (Layout.block (later ++ ts) indents cursor key? keyAllowed).inFlow = false := rfl
      have hindent : (Layout.block (later ++ ts) indents cursor key? keyAllowed).indent? =
        indents.head? := rfl
      rw [hflow, hindent, hclosed, Layout.insert_block]
      rfl

theorem openBlock? (h : Opens column start ts indents ts' indents') {m : Mark}
    (hm : m.column = column) (cs : List Char) (key? : Option KeyCandidate) :
    (Layout.block ts indents ⟨m, cs⟩ key? true).openBlock? start =
      some (Layout.block ts' indents' ⟨m, cs⟩ key? true) := by
  subst hm
  exact congrArg some (h.indentTo [] ⟨m, cs⟩ key? true)

end Opens

namespace Layout.Scans

variable {tokens ts ts' : List Token} {indents indents' : List Nat} {key? : Option KeyCandidate}
  {m : Mark} {cs : List Char} {column : Nat}

/-- The dash of an item. -/
theorem blockEntry (hopens : Opens column .blockSequenceStart ts indents ts' indents')
    (hm : m.column = column) (hkey : Stale key? m)
    (h : (block (.blockEntry :: ts') indents' ⟨m.steps 2, cs⟩ none true).Scans tokens) :
    (block ts indents ⟨m, '-' :: ' ' :: cs⟩ key? true).Scans tokens := by
  have htoken : (block ts indents ⟨m, '-' :: ' ' :: cs⟩ key? true).token? =
      Layout.blockEntry? (block ts indents ⟨m, '-' :: ' ' :: cs⟩ key? true) := by
    simp [token?, marksDocument, block, endsWord, isGap]
  have hnext : (block ts indents ⟨m, '-' :: ' ' :: cs⟩ key? true).next? =
      some (block (.blockEntry :: ts') indents' ⟨m.steps 1, ' ' :: cs⟩ none true) := by
    rw [next?_word (by decide) (hm ▸ hopens.outer_le), htoken, Layout.blockEntry?,
      hopens.openBlock? hm, Option.bind_eq_bind, Option.bind_some, dropKey?_block hkey]
    rfl
  exact (Scans.space h).step hnext (Nat.lt_succ_self _)

/-- The question mark of a key. -/
theorem keyEntry (hopens : Opens column .blockMappingStart ts indents ts' indents')
    (hm : m.column = column) (hkey : Stale key? m)
    (h : (block (.key :: ts') indents' ⟨m.steps 2, cs⟩ none true).Scans tokens) :
    (block ts indents ⟨m, '?' :: ' ' :: cs⟩ key? true).Scans tokens := by
  have htoken : (block ts indents ⟨m, '?' :: ' ' :: cs⟩ key? true).token? =
      Layout.keyEntry? (block ts indents ⟨m, '?' :: ' ' :: cs⟩ key? true) := by
    simp [token?, marksDocument, block, endsWord, isGap]
  have hnext : (block ts indents ⟨m, '?' :: ' ' :: cs⟩ key? true).next? =
      some (block (.key :: ts') indents' ⟨m.steps 1, ' ' :: cs⟩ none true) := by
    rw [next?_word (by decide) (hm ▸ hopens.outer_le), htoken, Layout.keyEntry?,
      hopens.openBlock? hm, Option.bind_eq_bind, Option.bind_some, dropKey?_block hkey]
    rfl
  exact (Scans.space h).step hnext (Nat.lt_succ_self _)

/-- The colon of a value on a line of its own. What may have started a key is on an earlier line. -/
theorem valueEntry (hm : m.column = column) (hkey : Stale key? m)
    (h : (block (.value :: ts) (column :: indents) ⟨m.steps 2, cs⟩ key? true).Scans tokens) :
    (block ts (column :: indents) ⟨m, ':' :: ' ' :: cs⟩ key? true).Scans tokens := by
  have hopens : Opens column .blockMappingStart ts (column :: indents) ts (column :: indents) :=
    .already ts indents
  have htoken : (block ts (column :: indents) ⟨m, ':' :: ' ' :: cs⟩ key? true).token? =
      (block ts (column :: indents) ⟨m, ':' :: ' ' :: cs⟩ key? true).value? := by
    simp [token?, marksDocument, block, endsWord, isGap]
  have hclosed : key?.filter (·.isOpen m) = none := by
    cases key? with
    | none => rfl
    | some k =>
        have hline : k.mark.line ≠ m.line := Nat.ne_of_lt (hkey k rfl).2
        rw [Option.filter_some, KeyCandidate.isOpen, decide_eq_false hline, Bool.false_and,
          if_neg Bool.false_ne_true]
  have hfree : key?.any (·.required) = false := by
    cases key? with
    | none => rfl
    | some k => exact (hkey k rfl).1
  have hnext : (block ts (column :: indents) ⟨m, ':' :: ' ' :: cs⟩ key? true).next? =
      some (block (.value :: ts) (column :: indents) ⟨m.steps 1, ' ' :: cs⟩ key? true) := by
    rw [next?_word (by decide) (hm ▸ hopens.outer_le), htoken, Layout.value?,
      show (block ts (column :: indents) ⟨m, ':' :: ' ' :: cs⟩ key? true).key? = key? from rfl,
      show (block ts (column :: indents) ⟨m, ':' :: ' ' :: cs⟩ key? true).cursor.mark = m from rfl,
      hclosed, hfree, if_neg Bool.false_ne_true, hopens.openBlock? hm]
    rfl
  exact (Scans.space h).step hnext (Nat.lt_succ_self _)

end Layout.Scans

end Yaml

end Manuscript
