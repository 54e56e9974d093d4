import Manuscript.Json.Printer
import Manuscript.Json.Reader
import Manuscript.Proofs.Text.Numeral
import Manuscript.Proofs.Yaml.Printed
import Mathlib.Data.List.TakeDrop

/-!
# JSON Read Back

Data that is printed as JSON is read back, whatever the texts in it hold. Each
piece of what is printed is read off the front of a text, and what comes after
it is left. So it has to be clear where a piece ends: a text ends at its quote,
and a numeral ends where neither a digit nor a point nor an exponent follows.
What follows a value is a comma, a new line or nothing.

The reader takes a number of steps that is bounded by the length of the text.
No value takes more steps than its text has characters, since every item or
field has at least one character of its own.

## Main definitions

* `Json.Apart`: What may follow a value.

## Theorems

* `Json.readText_escape`: A text is read back up to its quote.
* `Json.readWord_toDigits`: A natural number is read back.
* `Json.readValue_print`: A value is read back, and what follows it is left.
* `Json.read?_print`: Printed data is read back.
-/

namespace Manuscript

namespace Json

/-! ### Texts -/

theorem codeUnit?_hexDigit {n : Nat} (h : n < 32) :
    codeUnit? '0' '0' (hexDigit (n / 16)) (hexDigit (n % 16)) = some n := by
  have hall : ∀ n < 32, codeUnit? '0' '0' (hexDigit (n / 16)) (hexDigit (n % 16)) = some n := by
    decide
  exact hall n h

theorem readText_escape_cons (out : List Char) (c : Char) (cs : List Char) :
    readText out (escape c ++ cs) = readText (c :: out) cs := by
  unfold escape
  split
  · next hc => subst hc; simp [readText, letterEscape?]
  split
  · next hc => subst hc; simp [readText, letterEscape?]
  split
  · next hc => subst hc; simp [readText, letterEscape?]
  split
  · next hc => subst hc; simp [readText, letterEscape?]
  split
  · next hc => subst hc; simp [readText, letterEscape?]
  split
  · next hc => subst hc; simp [readText, letterEscape?]
  split
  · next hc => subst hc; simp [readText, letterEscape?]
  split
  · next hc =>
      have hlow : c.toNat < 0xd800 := by omega
      simp only [List.cons_append, List.nil_append]
      rw [readText]
      simp only [codeUnit?_hexDigit hc, hlow, true_or, if_true, Char.ofNat_toNat]
  · next hquote hslash _ _ _ _ _ hc =>
      have hraw : ¬(c = '\\' ∨ c.toNat < 32) := fun h => h.elim hslash hc
      rw [List.cons_append, List.nil_append, readText.eq_def]
      split
      · next h => exact absurd (List.cons.inj h).1 hquote
      · next h => exact absurd (List.cons.inj h).1 hslash
      · next h => exact absurd (List.cons.inj h).1 hslash
      · next h =>
          cases h
          rw [if_neg hraw]
      · next h => cases h

theorem readText_escape (out cs rest : List Char) :
    readText out (cs.flatMap escape ++ '"' :: rest) =
      some (String.ofList (out.reverse ++ cs), rest) := by
  induction cs generalizing out with
  | nil => rw [List.flatMap_nil, List.nil_append, readText, List.append_nil]
  | cons c cs ih =>
      rw [List.flatMap_cons, List.append_assoc, readText_escape_cons, ih, List.reverse_cons,
        List.append_assoc, List.singleton_append]

theorem readText_quote (s : String) (rest : List Char) :
    (quote s ++ rest = '"' :: (s.toList.flatMap escape ++ '"' :: rest)) ∧
      readText [] (s.toList.flatMap escape ++ '"' :: rest) = some (s, rest) := by
  refine ⟨by simp [quote], ?_⟩
  rw [readText_escape, List.reverse_nil, List.nil_append, String.ofList_toList]

/-! ### Numerals -/

/-- What may follow a value: a comma, a new line or nothing. -/
def Apart (rest : List Char) : Prop := ∀ c ∈ rest.head?, c = ',' ∨ c = '\n'

theorem Apart.head {c : Char} {rest : List Char} (h : Apart (c :: rest)) : c = ',' ∨ c = '\n' :=
  h c rfl

theorem Apart.ne_digit {c : Char} {rest : List Char} (h : Apart (c :: rest)) :
    c.isDigit = false := by
  rcases h.head with rfl | rfl <;> rfl

theorem spanDigits_append {digits rest : List Char} (hdigits : ∀ c ∈ digits, c.isDigit = true)
    (h : Apart rest) : spanDigits (digits ++ rest) = (digits, rest) := by
  rw [spanDigits, List.span_eq_takeWhile_dropWhile, List.takeWhile_append_of_pos hdigits,
    List.dropWhile_append_of_pos hdigits]
  cases rest with
  | nil => simp
  | cons c cs => simp [h.ne_digit]

theorem readFraction_apart {rest : List Char} (h : Apart rest) :
    readFraction rest = some ([], rest) := by
  unfold readFraction
  split
  · rcases h.head with h | h <;> cases h
  · rfl

theorem readExponent_apart {rest : List Char} (h : Apart rest) :
    readExponent rest = some ([], rest) := by
  unfold readExponent
  split
  · rcases h.head with rfl | rfl <;> rfl
  · rcases h.head with rfl | rfl <;> rfl
  · rfl

theorem readWhole_toDigits (n : Nat) {rest : List Char} (h : Apart rest) :
    readWhole (Nat.toDigits 10 n ++ rest) = some (Nat.toDigits 10 n, rest) := by
  have hspan : spanDigits (Nat.toDigits 10 n ++ rest) = (Nat.toDigits 10 n, rest) :=
    spanDigits_append (fun c hc => Nat.isDigit_of_mem_toDigits (by decide) (by decide) hc) h
  cases hdigits : Nat.toDigits 10 n with
  | nil => exact absurd hdigits Nat.toDigits_ne_nil
  | cons c cs =>
      rw [hdigits] at hspan
      by_cases hzero : c = '0'
      · -- A zero at the front is the whole numeral.
        subst hzero
        cases cs with
        | nil => rfl
        | cons d ds => exact absurd hdigits (Numeral.toDigits_ne_padded n d ds)
      · rw [readWhole, hspan]
        intro ds hds
        exact hzero (List.cons.inj hds).1

theorem toDigits_append_ne (n : Nat) {c : Char} (hc : c.isDigit = false) (rest cs : List Char) :
    Nat.toDigits 10 n ++ rest ≠ c :: cs := by
  intro h
  cases hdigits : Nat.toDigits 10 n with
  | nil => exact absurd hdigits Nat.toDigits_ne_nil
  | cons d ds =>
      rw [hdigits, List.cons_append] at h
      exact Numeral.toDigits_ne_cons n hc ds (hdigits.trans (by rw [(List.cons.inj h).1]))

theorem readNumeral_toDigits (n : Nat) {rest : List Char} (h : Apart rest) :
    readNumeral (Nat.toDigits 10 n ++ rest) = some (toString n, rest) := by
  unfold readNumeral
  split
  next sign cs hsplit =>
  split at hsplit
  · next ds hds => exact absurd hds (toDigits_append_ne n rfl rest ds)
  · cases hsplit
    rw [readWhole_toDigits n h]
    simp only [Option.bind_eq_bind, Option.bind_some, readFraction_apart h, readExponent_apart h,
      List.nil_append, List.append_nil]
    rfl

theorem readWord_toDigits (n : Nat) {rest : List Char} (h : Apart rest) :
    readWord (Nat.toDigits 10 n ++ rest) = some (.number (toString n), rest) := by
  unfold readWord
  split
  · next hcs => exact absurd hcs (toDigits_append_ne n rfl rest _)
  · next hcs => exact absurd hcs (toDigits_append_ne n rfl rest _)
  · next hcs => exact absurd hcs (toDigits_append_ne n rfl rest _)
  · rw [readNumeral_toDigits n h]
    rfl

/-! ### Gaps -/

theorem skipGap_append {gap : List Char} (hgap : ∀ c ∈ gap, isGap c = true) (cs : List Char) :
    skipGap (gap ++ cs) = skipGap cs :=
  List.dropWhile_append_of_pos hgap

theorem skipGap_cons {c : Char} (hc : isGap c = false) (cs : List Char) :
    skipGap (c :: cs) = c :: cs :=
  List.dropWhile_cons_of_neg (by rw [hc]; decide)

theorem isGap_of_mem_newline {depth : Nat} : ∀ c ∈ newline depth, isGap c = true := by
  intro c hc
  rcases List.mem_cons.mp hc with rfl | hspace
  · rfl
  · rw [List.eq_of_mem_replicate hspace]
    rfl

theorem skipGap_newline (depth : Nat) (cs : List Char) :
    skipGap (newline depth ++ cs) = skipGap cs :=
  skipGap_append isGap_of_mem_newline cs

theorem apart_newline (depth : Nat) (cs : List Char) : Apart (newline depth ++ cs) := by
  intro c hc
  exact .inr (Option.some.inj hc).symm

theorem apart_comma (cs : List Char) : Apart (',' :: cs) := by
  intro c hc
  exact .inl (Option.some.inj hc).symm

/-! ### Steps -/

section Steps

variable {n depth : Nat} {gap cs rest : List Char}

theorem readValue_word (hgap : ∀ c ∈ gap, isGap c = true) {c : Char} (hc : c.isAlphanum = true) :
    readValue (n + 1) (gap ++ c :: cs) = readWord (c :: cs) := by
  have hne {d : Char} (hd : d.isAlphanum = false) : c ≠ d := by
    rintro rfl
    exact absurd (hd.symm.trans hc) Bool.false_ne_true
  have hskip : skipGap (c :: cs) = c :: cs := by
    refine skipGap_cons ?_ cs
    rw [isGap]
    simp [hne]
  rw [readValue, skipGap_append hgap, hskip]
  split
  · next h => exact absurd (List.cons.inj h).1 (hne rfl)
  · next h => exact absurd (List.cons.inj h).1 (hne rfl)
  · next h => exact absurd (List.cons.inj h).1 (hne rfl)
  · rfl

theorem readValue_list (hgap : ∀ c ∈ gap, isGap c = true) {c : Char} (hc : isGap c = false)
    (hend : c ≠ ']') :
    readValue (n + 1) (gap ++ '[' :: (newline depth ++ c :: cs)) = readItems n [] (c :: cs) := by
  rw [readValue, skipGap_append hgap, skipGap_cons rfl]
  simp only [skipGap_newline, skipGap_cons hc]
  split
  · next h => exact absurd (List.cons.inj h).1 hend
  · rfl

theorem readValue_record (hgap : ∀ c ∈ gap, isGap c = true) :
    readValue (n + 1) (gap ++ '\x7b' :: (newline depth ++ '"' :: cs)) =
      readFields n [] ('"' :: cs) := by
  rw [readValue, skipGap_append hgap, skipGap_cons rfl]
  simp only [skipGap_newline, skipGap_cons (show isGap '"' = false from rfl)]
  rfl

variable {item : Data} {out : List Data}

theorem readItems_cons (h : readValue n cs = some (item, ',' :: rest)) :
    readItems (n + 1) out cs = readItems n (item :: out) rest := by
  rw [readItems, h]
  simp only [skipGap_cons (show isGap ',' = false from rfl)]

theorem readItems_last (h : readValue n cs = some (item, newline depth ++ ']' :: rest)) :
    readItems (n + 1) out cs = some (.list (item :: out).reverse, rest) := by
  rw [readItems, h]
  simp only [skipGap_newline, skipGap_cons (show isGap ']' = false from rfl)]

variable {name : String} {value : Data} {fields : List (String × Data)}

theorem readFields_cons (hgap : ∀ c ∈ gap, isGap c = true)
    (h : readValue n cs = some (value, ',' :: rest)) :
    readFields (n + 1) fields (gap ++ (quote name ++ ':' :: cs)) =
      readFields n ((name, value) :: fields) rest := by
  rcases readText_quote name (':' :: cs) with ⟨hquote, hname⟩
  rw [readFields, skipGap_append hgap, hquote, skipGap_cons rfl]
  simp only [hname, skipGap_cons (show isGap ':' = false from rfl), h,
    skipGap_cons (show isGap ',' = false from rfl)]

theorem readFields_last (hgap : ∀ c ∈ gap, isGap c = true)
    (h : readValue n cs = some (value, newline depth ++ '\x7d' :: rest)) :
    readFields (n + 1) fields (gap ++ (quote name ++ ':' :: cs)) =
      some (.record ((name, value) :: fields).reverse, rest) := by
  rcases readText_quote name (':' :: cs) with ⟨hquote, hname⟩
  rw [readFields, skipGap_append hgap, hquote, skipGap_cons rfl]
  simp only [hname, skipGap_cons (show isGap ':' = false from rfl), h, skipGap_newline,
    skipGap_cons (show isGap '\x7d' = false from rfl)]

end Steps

/-! ### Values -/

theorem print_number (depth k : Nat) : print depth (.number (toString k)) = Nat.toDigits 10 k :=
  String.toList_ofList

/-- What is printed starts with a character that is neither in a gap nor the end of a list. -/
theorem print_eq_cons (depth : Nat) {v : Data} (h : ∀ s ∈ v.numerals, ∃ k : Nat, s = toString k) :
    ∃ c cs, print depth v = c :: cs ∧ isGap c = false ∧ c ≠ ']' := by
  match v with
  | .null => exact ⟨_, _, rfl, rfl, by decide⟩
  | .flag true => exact ⟨_, _, rfl, rfl, by decide⟩
  | .flag false => exact ⟨_, _, rfl, rfl, by decide⟩
  | .text s => exact ⟨_, _, rfl, rfl, by decide⟩
  | .list [] => exact ⟨_, _, rfl, rfl, by decide⟩
  | .list (_ :: _) => exact ⟨_, _, rfl, rfl, by decide⟩
  | .record [] => exact ⟨_, _, rfl, rfl, by decide⟩
  | .record (_ :: _) => exact ⟨_, _, rfl, rfl, by decide⟩
  | .number s =>
      rcases h s List.mem_cons_self with ⟨k, rfl⟩
      have hall : ∀ c ∈ Yaml.decimalDigits, isGap c = false ∧ c ≠ ']' :=
        Yaml.forall_mem_of_all (by decide)
      rw [print_number]
      cases hdigits : Nat.toDigits 10 k with
      | nil => exact absurd hdigits Nat.toDigits_ne_nil
      | cons c cs =>
          have hdigit : c.isDigit = true :=
            Nat.isDigit_of_mem_toDigits (by decide) (by decide) (hdigits ▸ List.mem_cons_self)
          exact ⟨c, cs, rfl, hall c (Yaml.mem_decimalDigits hdigit)⟩

theorem print_list (depth : Nat) (item : Data) (items : List Data) (rest : List Char) :
    print depth (.list (item :: items)) ++ rest =
      '[' :: (newline (depth + 1) ++ (print (depth + 1) item ++
        (printItems (depth + 1) items ++ (newline depth ++ ']' :: rest)))) := by
  simp only [print, List.append_assoc, List.cons_append, List.nil_append]

theorem print_record (depth : Nat) (name : String) (value : Data) (fields : List (String × Data))
    (rest : List Char) :
    print depth (.record ((name, value) :: fields)) ++ rest =
      '\x7b' :: (newline (depth + 1) ++ (quote name ++ ':' :: ' ' :: (print (depth + 1) value ++
        (printFields (depth + 1) fields ++ (newline depth ++ '\x7d' :: rest))))) := by
  simp only [print, printField, List.append_assoc, List.cons_append, List.nil_append]

mutual

theorem readValue_print : ∀ (v : Data) (depth n : Nat) (gap : List Char) {rest : List Char},
    (∀ s ∈ v.numerals, ∃ k : Nat, s = toString k) → (print depth v).length ≤ n →
      (∀ c ∈ gap, isGap c = true) → Apart rest →
        readValue n (gap ++ (print depth v ++ rest)) = some (v, rest)
  | v, depth, 0, gap, rest, hnumerals, hn, hgap, hrest => by
      rcases print_eq_cons depth hnumerals with ⟨c, cs, hprint, -⟩
      rw [hprint] at hn
      exact absurd hn (Nat.not_succ_le_zero _)
  | .null, depth, n + 1, gap, rest, _, _, hgap, _ => readValue_word hgap rfl
  | .flag true, depth, n + 1, gap, rest, _, _, hgap, _ => readValue_word hgap rfl
  | .flag false, depth, n + 1, gap, rest, _, _, hgap, _ => readValue_word hgap rfl
  | .text s, depth, n + 1, gap, rest, _, _, hgap, _ => by
      rcases readText_quote s rest with ⟨hquote, htext⟩
      rw [readValue, skipGap_append hgap, print, hquote, skipGap_cons rfl]
      simp only [htext, Option.map_some]
  | .number s, depth, n + 1, gap, rest, hnumerals, _, hgap, hrest => by
      rcases hnumerals s List.mem_cons_self with ⟨k, rfl⟩
      have hword := readWord_toDigits k hrest
      rw [print_number]
      cases hdigits : Nat.toDigits 10 k with
      | nil => exact absurd hdigits Nat.toDigits_ne_nil
      | cons c cs =>
          have hdigit : c.isDigit = true :=
            Nat.isDigit_of_mem_toDigits (by decide) (by decide) (hdigits ▸ List.mem_cons_self)
          rw [hdigits] at hword
          rw [List.cons_append, readValue_word hgap (by simp [Char.isAlphanum, hdigit])]
          exact hword
  | .list [], depth, n + 1, gap, rest, _, _, hgap, _ => by
      rw [readValue, skipGap_append hgap]
      rfl
  | .record [], depth, n + 1, gap, rest, _, _, hgap, _ => by
      rw [readValue, skipGap_append hgap]
      rfl
  | .list (item :: items), depth, n + 1, gap, rest, hnumerals, hn, hgap, _ => by
      rw [print] at hn
      simp only [List.length_append, List.length_cons, newline] at hn
      have hitems := readItems_print item items depth n [] [] rest hnumerals (by omega)
        (fun _ h => absurd h List.not_mem_nil)
      rcases print_eq_cons (depth + 1) (fun s hs => hnumerals s (List.mem_append_left _ hs))
        with ⟨c, cs, hprint, hc, hend⟩
      rw [List.nil_append, hprint] at hitems
      rw [print_list, hprint]
      exact (readValue_list hgap hc hend).trans hitems
  | .record ((name, value) :: fields), depth, n + 1, gap, rest, hnumerals, hn, hgap, _ => by
      rw [print, printField] at hn
      simp only [List.length_append, List.length_cons, newline] at hn
      have hfields := readFields_print name value fields depth n [] [] rest hnumerals (by omega)
        (fun _ h => absurd h List.not_mem_nil)
      rw [List.nil_append, (readText_quote name _).1] at hfields
      rw [print_record, (readText_quote name _).1]
      exact (readValue_record hgap).trans hfields

theorem readItems_print : ∀ (item : Data) (items : List Data) (depth n : Nat) (gap : List Char)
    (out : List Data) (rest : List Char),
    (∀ s ∈ Data.numeralsOfItems (item :: items), ∃ k : Nat, s = toString k) →
      (print (depth + 1) item).length + (printItems (depth + 1) items).length < n →
        (∀ c ∈ gap, isGap c = true) →
          readItems n out (gap ++ (print (depth + 1) item ++
              (printItems (depth + 1) items ++ (newline depth ++ ']' :: rest)))) =
            some (.list (out.reverse ++ item :: items), rest)
  | item, items, depth, 0, gap, out, rest, hnumerals, hn, hgap => absurd hn (Nat.not_lt_zero _)
  | item, [], depth, n + 1, gap, out, rest, hnumerals, hn, hgap => by
      have hitem := readValue_print item (depth + 1) n gap
        (fun s hs => hnumerals s (List.mem_append_left _ hs)) (by omega) hgap
        (apart_newline depth (']' :: rest))
      rw [printItems, List.nil_append, readItems_last hitem, List.reverse_cons]
  | item, next :: items, depth, n + 1, gap, out, rest, hnumerals, hn, hgap => by
      rw [printItems] at hn ⊢
      simp only [List.length_append, List.length_cons] at hn
      simp only [List.append_assoc, List.cons_append]
      have hitem (cs : List Char) := readValue_print item (depth + 1) n gap
        (fun s hs => hnumerals s (List.mem_append_left _ hs)) (by omega) hgap (apart_comma cs)
      rw [readItems_cons (hitem _), readItems_print next items depth n _ (item :: out) rest
        (fun s hs => hnumerals s (List.mem_append_right _ hs)) (by omega) isGap_of_mem_newline,
        List.reverse_cons, List.append_assoc, List.singleton_append]

theorem readFields_print : ∀ (name : String) (value : Data) (fields : List (String × Data))
    (depth n : Nat) (gap : List Char) (out : List (String × Data)) (rest : List Char),
    (∀ s ∈ Data.numeralsOfFields ((name, value) :: fields), ∃ k : Nat, s = toString k) →
      (print (depth + 1) value).length + (printFields (depth + 1) fields).length < n →
        (∀ c ∈ gap, isGap c = true) →
          readFields n out (gap ++ (quote name ++ ':' :: ' ' :: (print (depth + 1) value ++
              (printFields (depth + 1) fields ++ (newline depth ++ '\x7d' :: rest))))) =
            some (.record (out.reverse ++ (name, value) :: fields), rest)
  | name, value, fields, depth, 0, gap, out, rest, hnumerals, hn, hgap =>
      absurd hn (Nat.not_lt_zero _)
  | name, value, [], depth, n + 1, gap, out, rest, hnumerals, hn, hgap => by
      have hvalue := readValue_print value (depth + 1) n [' ']
        (fun s hs => hnumerals s (List.mem_append_left _ hs)) (by omega)
        (List.forall_mem_singleton.mpr rfl) (apart_newline depth ('\x7d' :: rest))
      rw [printFields, List.nil_append]
      exact (readFields_last hgap hvalue).trans (by rw [List.reverse_cons])
  | name, value, (next, inner) :: fields, depth, n + 1, gap, out, rest, hnumerals, hn, hgap => by
      rw [printFields, printField] at hn ⊢
      simp only [List.length_append, List.length_cons] at hn
      simp only [List.append_assoc, List.cons_append]
      have hvalue (cs : List Char) := readValue_print value (depth + 1) n [' ']
        (fun s hs => hnumerals s (List.mem_append_left _ hs)) (by omega)
        (List.forall_mem_singleton.mpr rfl) (apart_comma cs)
      refine (readFields_cons hgap (hvalue _)).trans ?_
      rw [readFields_print next inner fields depth n _ ((name, value) :: out) rest
        (fun s hs => hnumerals s (List.mem_append_right _ hs)) (by omega) isGap_of_mem_newline,
        List.reverse_cons, List.append_assoc, List.singleton_append]

end

/-- Printed data is read back, with or without a new line after it, if every number in it is
    natural. -/
theorem read?_print {v : Data} (h : ∀ s ∈ v.numerals, ∃ k : Nat, s = toString k) (gap : List Char)
    (hgap : ∀ c ∈ gap, isGap c = true) (hrest : Apart gap) :
    read? (String.ofList (print 0 v ++ gap)) = some v := by
  have hvalue : readValue ((print 0 v ++ gap).length + 1) (print 0 v ++ gap) = some (v, gap) :=
    readValue_print v 0 _ [] h (by rw [List.length_append]; omega)
      (fun _ h => absurd h List.not_mem_nil) hrest
  have hskip : skipGap gap = [] := by
    rw [← List.append_nil gap, skipGap_append hgap]
    rfl
  rw [read?, String.toList_ofList]
  simp only [hvalue, hskip, List.isEmpty_nil, if_true]

end Json

end Manuscript
