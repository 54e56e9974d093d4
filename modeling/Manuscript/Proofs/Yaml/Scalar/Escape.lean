import Manuscript.Proofs.Text.Numeral
import Manuscript.Proofs.Yaml.Cursor
import Manuscript.Yaml.Scalar.Quoted
import Manuscript.Yaml.Scalar.Writing

/-!
# Escapes

How a single character is written in double quotes, and that it is read back
from there. There are four ways: as it is, by a letter, or by a code of two or
four digits. `EscapeOf` lists them, so whatever is asked of an escape is asked
four times and not once for every character that has a letter of its own.

Longer codes are not needed. They are for characters that come after all others
in the order of codes, and those can be written as they are.

## Main definitions

* `Yaml.EscapeOf`: The ways to write a character in double quotes.

## Theorems

* `Yaml.escapeOf_writeEscaped`: A character is written in one of these ways.
* `Yaml.charOfCode?_hexCode`: A code in hexadecimal digits stands for its character.
* `Yaml.EscapeOf.readDouble`: An escape is read as its character.
-/

namespace Manuscript

namespace Yaml

/-! ### Codes -/

theorem digit?_upperHexDigit {d : Nat} (h : d < 16) :
    Numeral.digit? 16 (upperHexDigit d) = some d := by
  have hall : ∀ d < 16, Numeral.digit? 16 (upperHexDigit d) = some d := by decide
  exact hall d h

theorem readFrom_hexCode (k n value : Nat) :
    Numeral.readFrom 16 value (hexCode k n) =
      some (value * Nat.pow 16 k + n % Nat.pow 16 k) := by
  induction k generalizing n with
  | zero => simp [hexCode, Numeral.readFrom, Nat.mod_one]
  | succ k ih =>
      -- The last digit is what is left of the number after division.
      have hlast : n % 16 < 16 := Nat.mod_lt n (by decide)
      have hpow : Nat.pow 16 (k + 1) = 16 * Nat.pow 16 k := Nat.mul_comm _ _
      rw [hexCode, Numeral.readFrom_append, ih, Option.bind_some, Numeral.readFrom,
        digit?_upperHexDigit hlast]
      simp only [Numeral.readFrom, Option.some.injEq]
      rw [hpow, Nat.mod_mul, Nat.mul_left_comm]
      omega

theorem charOfCode?_hexCode {c : Char} {k : Nat} (hk : 0 < k) (h : c.toNat < Nat.pow 16 k) :
    charOfCode? (hexCode k c.toNat) = some c := by
  have hread : Numeral.read? 16 (hexCode k c.toNat) = some c.toNat := by
    have hfrom := readFrom_hexCode k c.toNat 0
    rw [Nat.mod_eq_of_lt h, Nat.zero_mul, Nat.zero_add] at hfrom
    cases k with
    | zero => cases hk
    | succ k =>
        rw [← hfrom]
        cases hdigits : hexCode (k + 1) c.toNat with
        | nil => exact absurd hdigits (List.concat_ne_nil _ _)
        | cons d ds => rfl
  unfold charOfCode?
  rw [hread]
  have hvalid : c.toNat.isValidChar := c.valid
  simp only [hvalid, if_true, Char.ofNat_toNat]

/-! ### Ways to write a character -/

/-- The letters by which characters are written. -/
def escapeLetters : List Char :=
  ['0', 'a', 'b', 't', 'n', 'v', 'f', 'r', 'e', '"', '\\', 'N', 'L', 'P']

/-- The ways to write a character in double quotes. -/
inductive EscapeOf (c : Char) : List Char → Prop
  | itself (hwrite : isWritable c = true) (hbreak : isBreak c = false) (hquote : c ≠ '"')
      (hslash : c ≠ '\\') : EscapeOf c [c]
  | letter (l : Char) (hletter : l ∈ escapeLetters) (h : escapedChar? l = some c) :
      EscapeOf c ['\\', l]
  | short (h : c.toNat < 0x100) : EscapeOf c ('\\' :: 'x' :: hexCode 2 c.toNat)
  | long (hlow : 0x100 ≤ c.toNat) (h : c.toNat < 0x10000) :
      EscapeOf c ('\\' :: 'u' :: hexCode 4 c.toNat)

/-- The characters that are written by a letter. -/
def lettered : List Char :=
  ['"', '\\', '\x00', '\x07', '\x08', '\t', '\n', '\x0b', '\x0c', '\r', '\x1b', '\u0085',
    '\u2028', '\u2029']

theorem escapeOf_writeEscaped (c : Char) : EscapeOf c (writeEscaped c) := by
  by_cases hletter : c ∈ lettered
  · simp only [lettered, List.mem_cons, List.not_mem_nil, or_false] at hletter
    rcases hletter with
      rfl | rfl | rfl | rfl | rfl | rfl | rfl | rfl | rfl | rfl | rfl | rfl | rfl | rfl
    all_goals exact .letter _ (by decide) rfl
  · simp only [lettered, List.mem_cons, List.not_mem_nil, or_false, not_or] at hletter
    rcases hletter with ⟨hquote, hslash, h0, ha, hb, ht, hn, hv, hf, hr, he, hN, hL, hP⟩
    simp only [writeEscaped, hquote, hslash, h0, ha, hb, ht, hn, hv, hf, hr, he, hN, hL, hP,
      if_false]
    split
    case isTrue hwrite =>
      rw [Bool.and_eq_true, Bool.not_eq_true'] at hwrite
      exact .itself hwrite.1 hwrite.2 hquote hslash
    case isFalse hwrite =>
      split
      case isTrue h => exact .short h
      case isFalse hlow =>
        split
        case isTrue h => exact .long (Nat.le_of_not_lt hlow) h
        case isFalse h =>
          -- A character past these codes could be written as it is.
          have hbreak : isBreak c = false := by simp [isBreak, hn, hr, hN, hL, hP]
          have hhigh : isWritable c = true := by
            simp only [isWritable, Bool.or_eq_true, decide_eq_true_eq]
            exact .inr (Nat.le_of_not_lt h)
          rw [hbreak, hhigh] at hwrite
          exact absurd rfl hwrite

theorem two_le_utf8Size {c : Char} (h : 0x100 ≤ c.toNat) : 2 ≤ c.utf8Size := by
  simp only [Char.utf8Size]
  split
  case isTrue hone =>
    have hlow : c.toNat ≤ 0x7f := UInt32.le_iff_toNat_le.mp hone
    omega
  case isFalse =>
    split
    · decide
    · split <;> decide

namespace EscapeOf

variable {c : Char} {e : List Char}

/-- An escape can be written on one line. -/
theorem writable (h : EscapeOf c e) : ∀ d ∈ e, isWritable d = true ∧ isBreak d = false := by
  have hdigit : ∀ d < 16,
      isWritable (upperHexDigit d) = true ∧ isBreak (upperHexDigit d) = false := by
    decide
  have hcode : ∀ k n, ∀ d ∈ hexCode k n, isWritable d = true ∧ isBreak d = false := by
    intro k
    induction k with
    | zero => exact fun _ _ hd => absurd hd List.not_mem_nil
    | succ k ih =>
        intro n d hd
        rcases List.mem_append.mp hd with hmore | hlast
        · exact ih _ d hmore
        · rw [List.mem_singleton.mp hlast]
          exact hdigit _ (Nat.mod_lt n (by decide))
  intro d hd
  cases h with
  | itself hwrite hbreak hquote hslash => exact List.mem_singleton.mp hd ▸ ⟨hwrite, hbreak⟩
  | letter l hletter h =>
      have hall : ∀ l ∈ escapeLetters, isWritable l = true ∧ isBreak l = false :=
        forall_mem_of_all (by decide)
      simp only [List.mem_cons, List.not_mem_nil, or_false] at hd
      rcases hd with rfl | rfl
      · decide
      · exact hall d hletter
  | short h =>
      simp only [List.mem_cons] at hd
      rcases hd with rfl | rfl | hd
      · decide
      · decide
      · exact hcode _ _ d hd
  | long hlow h =>
      simp only [List.mem_cons] at hd
      rcases hd with rfl | rfl | hd
      · decide
      · decide
      · exact hcode _ _ d hd

/-- An escape is read as its character. Spaces are held back until it is known what follows. -/
theorem readDouble (h : EscapeOf c e) (out blanks : List Char) {m : Mark} (hm : 0 < m.column)
    (rest : List Char) :
    ∃ out' blanks' m', readDouble out (.blanks blanks) m (e ++ rest) =
      Yaml.readDouble out' (.blanks blanks') m' rest ∧ blanks' ++ out' = c :: (blanks ++ out) ∧
        Mark.Within (4 * c.utf8Size) m m' := by
  have hsize := c.utf8Size_pos
  cases h with
  | itself hwrite hbreak hquote hslash =>
      have hreturn := ne_return_of_unbroken hbreak
      have hstep : Mark.Within (4 * c.utf8Size) m (m.step c) :=
        (Mark.Within.step m c).mono (by omega)
      rw [List.cons_append, List.nil_append, readDouble.eq_8 _ _ _ _ _
        (fun _ h => absurd h hreturn) hquote (fun _ h => absurd h hslash)
        (fun _ _ _ h => absurd h hslash) (fun _ _ _ _ _ h => absurd h hslash)
        (fun _ _ _ _ _ _ _ _ _ h => absurd h hslash) (fun _ _ h => absurd h hslash), hbreak]
      by_cases hgap : isGap c = true
      · exact ⟨out, c :: blanks, _, by rw [if_neg Bool.false_ne_true, if_pos hgap]; rfl, rfl, hstep⟩
      · have hcolumn : (decide (m.column = 0) && marksDocument (c :: rest)) = false := by
          rw [decide_eq_false (Nat.ne_of_gt hm), Bool.false_and]
        exact ⟨c :: (blanks ++ out), [], _, by
          rw [if_neg Bool.false_ne_true, if_neg hgap, hcolumn, if_neg Bool.false_ne_true]; rfl, rfl,
          hstep⟩
  | letter l hletter h =>
      have hstep : Mark.Within (4 * c.utf8Size) m (m.steps 2) :=
        (Mark.Within.steps m 2).mono (by omega)
      simp only [escapeLetters, List.mem_cons, List.not_mem_nil, or_false] at hletter
      rcases hletter with
        rfl | rfl | rfl | rfl | rfl | rfl | rfl | rfl | rfl | rfl | rfl | rfl | rfl | rfl
      all_goals
        cases h
        exact ⟨_ :: (blanks ++ out), [], m.steps 2, rfl, rfl, hstep⟩
  | short h =>
      have hstep : Mark.Within (4 * c.utf8Size) m (m.steps 4) :=
        (Mark.Within.steps m 4).mono (by omega)
      have hcode : charOfCode? [_, _] = some c := charOfCode?_hexCode (k := 2) (by decide) h
      refine ⟨c :: (blanks ++ out), [], m.steps 4, ?_, rfl, hstep⟩
      exact (readDouble.eq_4 out (.blanks blanks) m _ _ rest).trans (by rw [hcode]; rfl)
  | long hlow h =>
      have hwide : 2 ≤ c.utf8Size := two_le_utf8Size hlow
      have hstep : Mark.Within (4 * c.utf8Size) m (m.steps 6) :=
        (Mark.Within.steps m 6).mono (by omega)
      have hcode : charOfCode? [_, _, _, _] = some c := charOfCode?_hexCode (k := 4) (by decide) h
      refine ⟨c :: (blanks ++ out), [], m.steps 6, ?_, rfl, hstep⟩
      exact (readDouble.eq_5 out (.blanks blanks) m _ _ _ _ rest).trans (by rw [hcode]; rfl)

end EscapeOf

end Yaml

end Manuscript
