import Manuscript.Proofs.Yaml.Cursor

/-!
# Styles of Scalars

What is known of a text from the style in which it is written. A style is
chosen by tests on the text, and each way to read a scalar relies on the tests
for its own style. `Suits` says which tests a text has passed, once for all of
them.

A plain text in particular gives away nothing of the layout around it. It has
no line breaks and no blanks at its ends, it does not start like anything else,
and neither a comment nor a value starts within it.

## Main definitions

* `Yaml.Suits`: A text has passed the tests for a style.
* `Yaml.PlainText`: What the tests for a plain scalar say.

## Theorems

* `Yaml.suits_styleOf`: A text suits its style.
* `Yaml.plainText_of_allowsPlain`: The tests for a plain scalar, one by one.
* `Yaml.writeScalar_starts`: A scalar starts like a word, whatever its text.
-/

namespace Manuscript

namespace Yaml

/-- The text has passed the tests for a style. -/
inductive Suits (s : String) : ScalarStyle → Prop
  | plain (hneeds : needsQuotes s = false) (hallows : allowsPlain s.toList = true) : Suits s .plain
  | singleQuoted (hfeed : '\n' ∉ s.toList) (hallows : allowsSingle s.toList = true) :
      Suits s .singleQuoted
  | literal (hfeed : '\n' ∈ s.toList) (hallows : allowsLiteral s.toList = true) : Suits s .literal
  | doubleQuoted : Suits s .doubleQuoted

theorem suits_styleOf (s : String) : Suits s (styleOf s) := by
  unfold styleOf
  by_cases hfeed : '\n' ∈ s.toList
  · rw [if_pos (List.contains_iff_mem.mpr hfeed)]
    split
    case isTrue h => exact .literal hfeed h
    case isFalse => exact .doubleQuoted
  · rw [if_neg fun h => hfeed (List.contains_iff_mem.mp h)]
    split
    case isTrue h =>
      rw [Bool.and_eq_true, Bool.not_eq_true'] at h
      exact .plain h.1 h.2
    case isFalse =>
      split
      case isTrue h => exact .singleQuoted hfeed h
      case isFalse => exact .doubleQuoted

theorem hasPair_tail {p q : Char → Bool} {c : Char} {cs : List Char}
    (h : hasPair p q (c :: cs) = false) : hasPair p q cs = false := by
  cases cs with
  | nil => rfl
  | cons d rest =>
      rw [hasPair, Bool.or_eq_false_iff] at h
      exact h.2

theorem hasPair_head {p q : Char → Bool} {c : Char} {cs : List Char}
    (h : hasPair p q (c :: cs) = false) (hc : p c = true) {d : Char} (hd : cs.head? = some d) :
    q d = false := by
  cases cs with
  | nil => cases hd
  | cons e rest =>
      cases hd
      rw [hasPair, Bool.or_eq_false_iff, hc, Bool.true_and] at h
      exact h.1

theorem getLast?_tail_ne {c a : Char} {cs : List Char} (h : (c :: cs).getLast? ≠ some a) :
    cs.getLast? ≠ some a := by
  intro hlast
  rw [List.getLast?_cons, hlast] at h
  exact h rfl

/-- The line breaks that can be written as they are stand for themselves. -/
theorem lineBreak_of_isWritable {c : Char} (hwrite : isWritable c = true)
    (hbreak : isBreak c = true) : lineBreak c = c := by
  unfold isBreak at hbreak
  simp only [Bool.or_eq_true, decide_eq_true_eq] at hbreak
  rcases hbreak with (((rfl | rfl) | rfl) | rfl) | rfl
  · rfl
  · cases hwrite
  · cases hwrite
  · rfl
  · rfl

/-- What the tests for a plain scalar say of a text. -/
structure PlainText (cs : List Char) : Prop where
  head : cs.head? ≠ some ' '
  last : cs.getLast? ≠ some ' '
  writable : ∀ c ∈ cs, isWritable c = true
  unbroken : ∀ c ∈ cs, isBreak c = false
  start : startsWithIndicator cs = false
  inner : hasIndicator cs.tail = false

theorem plainText_of_allowsPlain {cs : List Char} (h : allowsPlain cs = true) : PlainText cs := by
  unfold allowsPlain at h
  simp only [Bool.and_eq_true, decide_eq_true_eq, List.all_eq_true, Bool.not_eq_true'] at h
  rcases h with ⟨⟨⟨⟨hhead, hlast⟩, hall⟩, hstart⟩, hinner⟩
  exact ⟨hhead, hlast, fun c hc => (hall c hc).1, fun c hc => (hall c hc).2, hstart, hinner⟩

namespace PlainText

variable {c : Char} {cs : List Char}

theorem noGap (h : PlainText (c :: cs)) : isGap c = false := by
  have hspace : c ≠ ' ' := fun heq => h.head (congrArg some heq)
  exact isGap_eq_false_iff.mpr ⟨hspace, ne_tab_of_isWritable (h.writable c List.mem_cons_self)⟩

theorem startsWord (h : PlainText (c :: cs)) : StartsWord c where
  unbroken := h.unbroken c List.mem_cons_self
  noGap := h.noGap
  noComment := by
    rintro rfl
    cases h.start
  noMark := by
    rintro rfl
    cases h.writable byteOrderMark List.mem_cons_self

end PlainText

/-- The empty text would be taken for the null value. -/
theorem toList_ne_nil_of_needsQuotes {s : String} (h : needsQuotes s = false) : s.toList ≠ [] := by
  intro hnil
  rw [String.toList_eq_nil_iff.mp hnil] at h
  cases h

theorem writeScalar_starts (column : Nat) (s : String) : Starts (writeScalar column s) := by
  have hsuits := suits_styleOf s
  unfold writeScalar
  generalize styleOf s = style at hsuits ⊢
  cases hsuits with
  | plain hneeds hallows =>
      cases hs : s.toList with
      | nil => exact absurd hs (toList_ne_nil_of_needsQuotes hneeds)
      | cons c cs => exact ⟨c, cs, rfl, (plainText_of_allowsPlain (hs ▸ hallows)).startsWord⟩
  | singleQuoted => exact ⟨_, _, rfl, by decide⟩
  | literal => exact ⟨_, _, rfl, by decide⟩
  | doubleQuoted => exact ⟨_, _, rfl, by decide⟩

end Yaml

end Manuscript
