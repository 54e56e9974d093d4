import Manuscript.Proofs.Yaml.Token.Scalars

/-!
# Tokens of Printed Data

The tokens that printed data is split into. They follow the data, with one
exception: a list after a short name stands at the column of the name, so it has
no tokens for its start and end, and its items are told from the fields around it
by their dashes alone.

The induction is on the data. What it carries is that a value leaves the scanner
at the first word of the next line, wherever that is, with all collections open
that were open before. A collection within the value is closed there, since the
next line is not indented as far.

## Main definitions

* `Yaml.valueTokens`, `Yaml.shortValueTokens`: The tokens of a value, in two places.
* `Yaml.itemTokens`, `Yaml.fieldTokens`: The tokens of items and fields.

## Theorems

* `Yaml.Layout.scans_leaf`: A value that holds no others.
* `Yaml.Layout.scans_value`: Any value.
* `Yaml.Layout.scans_document`: A record after the start marker.
-/

namespace Manuscript

namespace Yaml

/-! ### The tokens -/

/-- The tokens of a value that holds no others. -/
def leafTokens : Data → List Token
  | .null => [.scalar .plain "null"]
  | .flag b => [.scalar .plain (if b then "true" else "false")]
  | .number n => [.scalar .plain n]
  | .text s => [.scalar (styleOf s) s]
  | .list _ => [.flowSequenceStart, .flowSequenceEnd]
  | .record _ => [.flowMappingStart, .flowMappingEnd]

mutual

/-- The tokens of a value. -/
def valueTokens : Data → List Token
  | .list (item :: rest) => .blockSequenceStart :: itemTokens (item :: rest) ++ [.blockEnd]
  | .record (field :: rest) => .blockMappingStart :: fieldTokens (field :: rest) ++ [.blockEnd]
  | leaf => leafTokens leaf

/-- The tokens of a value after a short name. A list there has no tokens for its start and end. -/
def shortValueTokens : Data → List Token
  | .list (item :: rest) => itemTokens (item :: rest)
  | .record (field :: rest) => .blockMappingStart :: fieldTokens (field :: rest) ++ [.blockEnd]
  | leaf => leafTokens leaf

/-- The tokens of items. -/
def itemTokens : List Data → List Token
  | [] => []
  | item :: rest => .blockEntry :: valueTokens item ++ itemTokens rest

/-- The tokens of fields. -/
def fieldTokens : List (String × Data) → List Token
  | [] => []
  | (name, value) :: rest =>
    .key :: .scalar (styleOf name) name :: .value ::
      (if isShortKey name then shortValueTokens value else valueTokens value) ++ fieldTokens rest

end

namespace Layout

variable {tokens ts : List Token} {indents : List Nat} {key? : Option KeyCandidate}
  {keyAllowed : Bool} {m : Mark} {tail : List Char} {outer : Nat}

/-! ### Values that hold no others -/

/-- Brackets with nothing between them. -/
theorem scans_brackets {o c : Char} {start stop : Token} (ho : StartsWord o) (hc : StartsWord c)
    (hopen : ∀ l : Layout, l.cursor.rest = o :: c :: '\n' :: tail → l.token? = l.flowStart? start)
    (hclose : ∀ l : Layout, l.cursor.rest = c :: '\n' :: tail → l.token? = l.flowEnd? stop)
    (htail : Follows outer tail) (hm : outer < m.column) (hkey : Stale key? m)
    (hrest : Resumes (stop :: start :: ts) (outer :: indents) tail tokens) :
    (block ts (outer :: indents) ⟨m, o :: c :: '\n' :: tail⟩ key? keyAllowed).Scans tokens := by
  -- The brackets keep the candidate of the collection around them until they are closed.
  let key := noted ts (outer :: indents) key? keyAllowed m
  let opened : Layout := ⟨⟨m.steps 1, c :: '\n' :: tail⟩, start :: ts, ts.length + 1,
    outer :: indents, none, [key], true⟩
  have hfirst : (block ts (outer :: indents) ⟨m, o :: c :: '\n' :: tail⟩ key? keyAllowed).next? =
      some opened := by
    rw [next?_word ho (outer_le_of_lt hm), hopen _ rfl]
    unfold flowStart?
    rw [noteKey?_block hkey]
    rfl
  have hsecond : opened.next? = some (block (stop :: start :: ts) (outer :: indents)
      ⟨m.steps 2, '\n' :: tail⟩ key false) := by
    have hmove : toToken opened.inFlow opened.keyAllowed false opened.cursor.mark
        opened.cursor.rest = (true, opened.cursor) :=
      toToken_word hc true (m.steps 1) ('\n' :: tail)
    have htoken : opened.token? = opened.flowEnd? stop := hclose opened rfl
    unfold next?
    rw [hmove]
    exact htoken
  have hstale : Stale key ((m.steps 2).newline 1) := stale_noted hm hkey (Nat.lt_succ_self _)
  exact ((Scans.newline htail (hrest _ key rfl hstale)).step hsecond (Nat.lt_succ_self _)).step
    hfirst (Nat.lt_succ_self _)

theorem scans_leaf {d : Data} (hnumerals : ∀ n ∈ d.numerals, IsNumeral n)
    (htail : Follows outer tail) (hm : outer < m.column) (hkey : Stale key? m)
    (hrest : Resumes ((leafTokens d).reverse ++ ts) (outer :: indents) tail tokens) :
    (block ts (outer :: indents) ⟨m, printLeaf (outer + 2) d ++ tail⟩ key? keyAllowed).Scans
      tokens := by
  have hword (word : String) (hplain : PlainText word.toList) (hne : word.toList ≠ [])
      (hrest : Resumes (.scalar .plain word :: ts) (outer :: indents) tail tokens) :
      (block ts (outer :: indents) ⟨m, endLine word.toList ++ tail⟩ key? keyAllowed).Scans
        tokens := by
    rw [endLine_of_unbroken fun c hc => hplain.unbroken c (List.mem_of_getLast? hc),
      List.append_assoc]
    refine scans_plain hplain hne htail hm hkey ?_
    rw [String.ofList_toList]
    exact hrest
  cases d with
  | null => exact hword "null" (plainText_of_allowsPlain (by decide)) (by decide) hrest
  | flag b =>
      cases b
      · exact hword "false" (plainText_of_allowsPlain (by decide)) (by decide) hrest
      · exact hword "true" (plainText_of_allowsPlain (by decide)) (by decide) hrest
  | number n =>
      have hnumeral := hnumerals n List.mem_cons_self
      exact hword n (plainText_of_isNumeral hnumeral) hnumeral.nonempty hrest
  | text s => exact scans_text s htail hm hkey hrest
  | list items =>
      refine scans_brackets (by decide) (by decide) ?_ ?_ htail hm hkey hrest
      · intro l hl
        simp [token?, hl, marksDocument]
      · intro l hl
        simp [token?, hl, marksDocument]
  | record fields =>
      refine scans_brackets (by decide) (by decide) ?_ ?_ htail hm hkey hrest
      · intro l hl
        simp [token?, hl, marksDocument]
      · intro l hl
        simp [token?, hl, marksDocument]

/-! ### All values -/

theorem reverse_enclosed (start stop : Token) (inner ts : List Token) :
    (start :: inner ++ [stop]).reverse ++ ts = stop :: (inner.reverse ++ start :: ts) := by
  simp

theorem reverse_entry (indicator : Token) (value rest ts : List Token) :
    (indicator :: value ++ rest).reverse ++ ts =
      rest.reverse ++ (value.reverse ++ indicator :: ts) := by
  simp

theorem reverse_field (name : Token) (value rest ts : List Token) :
    (.key :: name :: .value :: value ++ rest).reverse ++ ts =
      rest.reverse ++ (value.reverse ++ .value :: name :: .key :: ts) := by
  simp

theorem Resumes.close {column limit : Nat} (hlimit : limit < column) (htail : Follows limit tail)
    (h : Resumes (.blockEnd :: ts) indents tail tokens) :
    Resumes ts (column :: indents) tail tokens :=
  fun m key? hm hkey => Scans.close htail hlimit hm (h m key? hm hkey)

theorem endsWord_printFieldValue (column : Nat) (d : Data) (tail : List Char) :
    endsWord (printFieldValue column d ++ tail) = true := by
  cases d with
  | null => rfl
  | flag b => rfl
  | number n => rfl
  | text s => rfl
  | list items => cases items <;> rfl
  | record fields => cases fields <;> rfl

mutual

/-- A value that starts two columns deeper than the collection around it. -/
theorem scans_value : ∀ (d : Data) (_ : ∀ n ∈ d.numerals, IsNumeral n) {ts : List Token}
    {outer : Nat} {indents : List Nat} {m : Mark} {key? : Option KeyCandidate} {tail : List Char}
    (_ : Follows outer tail) (_ : m.column = outer + 2) (_ : Stale key? m)
    (_ : Resumes ((valueTokens d).reverse ++ ts) (outer :: indents) tail tokens),
    (block ts (outer :: indents) ⟨m, printValue (outer + 2) d ++ tail⟩ key? true).Scans tokens
  | .list (item :: rest), hnumerals, ts, outer, indents, m, key?, tail, htail, hm, hkey, hrest => by
      have hdeeper : outer < outer + 2 := by omega
      refine scans_items (item :: rest) (List.cons_ne_nil item rest) hnumerals htail
        (Nat.le_of_lt hdeeper) (.of_lt hdeeper _ ts indents) hm hkey
        (Resumes.close hdeeper htail ?_)
      rw [valueTokens, reverse_enclosed] at hrest
      exact hrest
  | .record (field :: rest), hnumerals, ts, outer, indents, m, key?, tail, htail, hm, hkey,
    hrest => by
      have hdeeper : outer < outer + 2 := by omega
      refine scans_fields (field :: rest) (List.cons_ne_nil field rest) hnumerals htail
        (Nat.le_of_lt hdeeper) (.of_lt hdeeper _ ts indents) hm hkey
        (Resumes.close hdeeper htail ?_)
      rw [valueTokens, reverse_enclosed] at hrest
      exact hrest
  | .null, hnumerals, ts, outer, indents, m, key?, tail, htail, hm, hkey, hrest
  | .flag _, hnumerals, ts, outer, indents, m, key?, tail, htail, hm, hkey, hrest
  | .number _, hnumerals, ts, outer, indents, m, key?, tail, htail, hm, hkey, hrest
  | .text _, hnumerals, ts, outer, indents, m, key?, tail, htail, hm, hkey, hrest
  | .list [], hnumerals, ts, outer, indents, m, key?, tail, htail, hm, hkey, hrest
  | .record [], hnumerals, ts, outer, indents, m, key?, tail, htail, hm, hkey, hrest =>
      scans_leaf hnumerals htail (by omega) hkey hrest

/-- A value after a short name. -/
theorem scans_shortValue : ∀ (d : Data) (_ : ∀ n ∈ d.numerals, IsNumeral n) {ts : List Token}
    {column : Nat} {indents : List Nat} {m : Mark} {tail : List Char} (_ : Follows column tail)
    (_ : column < m.column)
    (_ : Resumes ((shortValueTokens d).reverse ++ ts) (column :: indents) tail tokens),
    (block ts (column :: indents) ⟨m, printFieldValue column d ++ tail⟩ none false).Scans tokens
  | .list (item :: rest), hnumerals, ts, column, indents, m, tail, htail, hm, hrest => by
      -- The list is not indented more than the record, so nothing begins that has to end again.
      have hne : item :: rest ≠ [] := List.cons_ne_nil item rest
      have htext : printFieldValue column (.list (item :: rest)) ++ tail =
          '\n' :: (indentation column ++ (printItems column [] (item :: rest) ++ tail)) := by
        rw [← List.append_assoc, ← printItems_start column (indentation column) hne]
        rfl
      have hstarts := (printItems_starts column hne).append tail
      rw [htext]
      refine Scans.newline (.of_starts (Nat.le_refl column) hstarts) ?_
      rw [lineStart_indentation hstarts]
      exact scans_items (item :: rest) hne hnumerals htail (Nat.le_refl _) (.already ts indents)
        (Nat.zero_add column) (stale_none _) hrest
  | .record (field :: rest), hnumerals, ts, column, indents, m, tail, htail, hm, hrest => by
      have hdeeper : column < column + 2 := by omega
      have hne : field :: rest ≠ [] := List.cons_ne_nil field rest
      have htext : printFieldValue column (.record (field :: rest)) ++ tail = '\n' ::
          (indentation (column + 2) ++ (printFields (column + 2) [] (field :: rest) ++ tail)) := by
        rw [← List.append_assoc, ← printFields_start (column + 2) (indentation (column + 2)) hne]
        rfl
      have hstarts := (printFields_starts (column + 2) hne).append tail
      rw [htext]
      refine Scans.newline (.of_starts (Nat.le_refl (column + 2)) hstarts) ?_
      rw [lineStart_indentation hstarts]
      refine scans_fields (field :: rest) hne hnumerals htail (Nat.le_of_lt hdeeper)
        (.of_lt hdeeper _ ts indents) (Nat.zero_add _) (stale_none _)
        (Resumes.close hdeeper htail ?_)
      rw [shortValueTokens, reverse_enclosed] at hrest
      exact hrest
  | .null, hnumerals, ts, column, indents, m, tail, htail, hm, hrest
  | .flag _, hnumerals, ts, column, indents, m, tail, htail, hm, hrest
  | .number _, hnumerals, ts, column, indents, m, tail, htail, hm, hrest
  | .text _, hnumerals, ts, column, indents, m, tail, htail, hm, hrest
  | .list [], hnumerals, ts, column, indents, m, tail, htail, hm, hrest
  | .record [], hnumerals, ts, column, indents, m, tail, htail, hm, hrest =>
      Scans.space (scans_leaf hnumerals htail (Nat.lt_succ_of_lt hm) (stale_none _) hrest)

/-- The items of a list, the first of which starts at the cursor. -/
theorem scans_items : ∀ (items : List Data) (_ : items ≠ [])
    (_ : ∀ n ∈ Data.numeralsOfItems items, IsNumeral n) {ts ts' : List Token} {column limit : Nat}
    {indents indents' : List Nat} {m : Mark} {key? : Option KeyCandidate} {tail : List Char}
    (_ : Follows limit tail) (_ : limit ≤ column)
    (_ : Opens column .blockSequenceStart ts indents ts' (column :: indents'))
    (_ : m.column = column) (_ : Stale key? m)
    (_ : Resumes ((itemTokens items).reverse ++ ts') (column :: indents') tail tokens),
    (block ts indents ⟨m, printItems column [] items ++ tail⟩ key? true).Scans tokens
  | [], hne, _, _, _, _, _, _, _, _, _, _, _, _, _, _, _, _ => absurd rfl hne
  | item :: rest, _, hnumerals, ts, ts', column, limit, indents, indents', m, key?, tail, htail,
      hlimit, hopens, hm, hkey, hrest => by
      -- The line after the item starts the next one, for which the list is open already.
      have hmore : Resumes ((valueTokens item).reverse ++ .blockEntry :: ts') (column :: indents')
          (printItems column (indentation column) rest ++ tail) tokens := by
        rw [itemTokens, reverse_entry] at hrest
        intro m' key? hm' hkey'
        by_cases hne : rest = []
        · subst hne
          exact hrest m' key? hm' hkey'
        · have hstarts := (printItems_starts column hne).append tail
          rw [printItems_start column _ hne, List.append_assoc, lineStart_indentation hstarts]
          refine scans_items rest hne (fun n hn => hnumerals n (List.mem_append_right _ hn)) htail
            hlimit (.already _ indents') ?_ hkey' hrest
          rw [Mark.steps, hm', Nat.zero_add]
      have htext : printItems column [] (item :: rest) ++ tail = '-' :: ' ' ::
          (printValue (column + 2) item ++
            (printItems column (indentation column) rest ++ tail)) := by
        rw [printItems, List.nil_append, List.append_assoc]
        rfl
      rw [htext]
      refine Scans.blockEntry hopens hm hkey ?_
      exact scans_value item (fun n hn => hnumerals n (List.mem_append_left _ hn))
        (follows_printItems hlimit htail rest) (congrArg (· + 2) hm) (stale_none _) hmore

/-- The fields of a record, the first of which starts at the cursor. -/
theorem scans_fields : ∀ (fields : List (String × Data)) (_ : fields ≠ [])
    (_ : ∀ n ∈ Data.numeralsOfFields fields, IsNumeral n) {ts ts' : List Token} {column limit : Nat}
    {indents indents' : List Nat} {m : Mark} {key? : Option KeyCandidate} {tail : List Char}
    (_ : Follows limit tail) (_ : limit ≤ column)
    (_ : Opens column .blockMappingStart ts indents ts' (column :: indents'))
    (_ : m.column = column) (_ : Stale key? m)
    (_ : Resumes ((fieldTokens fields).reverse ++ ts') (column :: indents') tail tokens),
    (block ts indents ⟨m, printFields column [] fields ++ tail⟩ key? true).Scans tokens
  | [], hne, _, _, _, _, _, _, _, _, _, _, _, _, _, _, _, _ => absurd rfl hne
  | (name, value) :: rest, _, hnumerals, ts, ts', column, limit, indents, indents', m, key?, tail,
      htail, hlimit, hopens, hm, hkey, hrest => by
      have hnumeral : ∀ n ∈ value.numerals, IsNumeral n :=
        fun n hn => hnumerals n (List.mem_append_left _ hn)
      have hfollows := follows_printFields hlimit htail rest
      have hmore : Resumes ((if isShortKey name then shortValueTokens value
          else valueTokens value).reverse ++ .value :: .scalar (styleOf name) name :: .key :: ts')
            (column :: indents') (printFields column (indentation column) rest ++ tail) tokens := by
        rw [fieldTokens, reverse_field] at hrest
        intro m' key? hm' hkey'
        by_cases hne : rest = []
        · subst hne
          exact hrest m' key? hm' hkey'
        · have hstarts := (printFields_starts column hne).append tail
          rw [printFields_start column _ hne, List.append_assoc, lineStart_indentation hstarts]
          refine scans_fields rest hne (fun n hn => hnumerals n (List.mem_append_right _ hn)) htail
            hlimit (.already _ indents') ?_ hkey' hrest
          rw [Mark.steps, hm', Nat.zero_add]
      rw [printFields, List.nil_append, List.append_assoc, printField]
      cases hname : isShortKey name with
      | true =>
          rw [hname, if_pos rfl] at hmore
          rw [if_pos rfl, List.append_assoc, List.cons_append]
          exact scans_shortKey hname hopens hm hkey (endsWord_printFieldValue column value _)
            fun m' hm' => scans_shortValue value hnumeral hfollows hm' hmore
      | false =>
          -- The name ends its line like a value, and what follows it is the colon.
          rw [hname, if_neg Bool.false_ne_true] at hmore
          have hvalue : Resumes (.scalar (styleOf name) name :: .key :: ts') (column :: indents')
              (indentation column ++ ':' :: ' ' :: (printValue (column + 2) value ++
                (printFields column (indentation column) rest ++ tail))) tokens := by
            intro m' key? hm' hkey'
            have hplace : (m'.steps column).column = column := by rw [Mark.steps, hm', Nat.zero_add]
            rw [lineStart_indentation ⟨':', _, rfl, by decide⟩]
            exact Scans.valueEntry hplace hkey'
              (scans_value value hnumeral hfollows (congrArg (· + 2) hplace) hkey' hmore)
          rw [if_neg Bool.false_ne_true, List.append_assoc, List.append_assoc]
          refine Scans.keyEntry hopens hm hkey ?_
          exact scans_text name (.line (Nat.le_refl column) (by decide) _)
            (hm ▸ Nat.lt_add_of_pos_right (by decide)) (stale_none _) hvalue

end

/-! ### Whole texts -/

theorem finish?_block (hkey : Stale key? m) (column : Nat) (cursor : Cursor) :
    (block ts [column] cursor key? keyAllowed).finish? =
      some (ts.reverse ++ [.blockEnd, .finish]) := by
  have hdedent : (block ts [column] cursor key? keyAllowed).dedentAll =
    block (.blockEnd :: ts) [] cursor key? keyAllowed := rfl
  unfold finish?
  rw [hdedent, dropKey?_block hkey]
  simp [block, push]

theorem next?_start (cs : List Char) :
    (start ('-' :: '-' :: '-' :: '\n' :: cs)).next? =
      some (block [.documentStart] [] ⟨Mark.start.steps 3, '\n' :: cs⟩ none false) := by
  have hmarks : marksDocument ('-' :: '-' :: '-' :: '\n' :: cs) = true := rfl
  have htoken : (start ('-' :: '-' :: '-' :: '\n' :: cs)).token? =
      (start ('-' :: '-' :: '-' :: '\n' :: cs)).outside? (marker .documentStart) := by
    simp [token?, start, hmarks, Cursor.column, Mark.start]
  exact (next?_word (by decide) (by simp)).trans htoken

/-- The fields of a record after the marker of the document's start. -/
theorem scans_document {fields : List (String × Data)} (hne : fields ≠ [])
    (hnumerals : ∀ n ∈ Data.numeralsOfFields fields, IsNumeral n) :
    (start ('-' :: '-' :: '-' :: '\n' :: printFields 0 [] fields)).Scans
      (.documentStart :: .blockMappingStart :: fieldTokens fields ++ [.blockEnd, .finish]) := by
  have hstarts : Starts (printFields 0 [] fields) := printFields_starts 0 hne
  have hrest : Resumes ((fieldTokens fields).reverse ++ [.blockMappingStart, .documentStart]) [0] []
      (.documentStart :: .blockMappingStart :: fieldTokens fields ++ [.blockEnd, .finish]) := by
    intro m key? _ hkey
    refine Scans.of_finish? rfl ((finish?_block hkey 0 _).trans ?_)
    simp
  have hfields := scans_fields fields hne hnumerals (Follows.finish : Follows 0 []) (Nat.le_refl 0)
    (.deeper [.documentStart] [] (by simp)) (m := (Mark.start.steps 3).newline 1) rfl (stale_none _)
    hrest
  rw [List.append_nil] at hfields
  have hline := lineStart_indentation hstarts ((Mark.start.steps 3).newline 1) 0
  refine Scans.step (Scans.newline (.of_starts (Nat.le_refl 0) hstarts) ?_) (next?_start _) ?_
  · rw [hline]
    exact hfields
  · exact Nat.lt_add_of_pos_right (n := _) (k := 3) (by decide)

end Layout

end Yaml

end Manuscript
