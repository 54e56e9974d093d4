import Manuscript.Text.Numeral
import Mathlib.Data.List.Induction

/-!
# Decimal Numerals

A number written in decimal is read back as that number. Numerals are read from
the front and written from the back, where the last digit is what is left when
the number is divided by ten, so the induction is on the number and takes off
the last digit.

A numeral that is written has no sign, and it starts with a zero only if it is
zero. Both are needed where a text may be a numeral of several forms, to see
that it is taken for a plain decimal one.

What is read may start with any number of zeros. Reading accepts decimal digits
and nothing else, and apart from leading zeros a numeral is written in one way
only. A word is read if it can hold what the digits count.

## Main definitions

* `Numeral.IsDecimal`: One or more decimal digits.
* `Numeral.value`: What they count.

## Theorems

* `Numeral.read?_toDigits`: A decimal numeral stands for the number it was written for.
* `Numeral.toDigits_ne_padded`: It does not start with a zero and another digit.
* `Numeral.toDigits_ne_cons`: It starts with a digit.
* `Numeral.readWord?_eq_some_iff`: Which texts are read as a word.
* `Numeral.toDigits_value_eq_dropWhile`: Leading zeros are all that is lost when what a numeral
  counts is written again.
-/

namespace Manuscript

namespace Numeral

theorem digit?_digitChar {d : Nat} (h : d < 10) : digit? 10 d.digitChar = some d := by
  have hall : ∀ d < 10, digit? 10 d.digitChar = some d := by decide
  exact hall d h

theorem readFrom_append (base value : Nat) (cs ds : List Char) :
    readFrom base value (cs ++ ds) = (readFrom base value cs).bind (readFrom base · ds) := by
  induction cs generalizing value with
  | nil => rfl
  | cons c rest ih =>
      rw [List.cons_append, readFrom, readFrom]
      cases digit? base c with
      | none => rfl
      | some d => exact ih (value * base + d)

theorem readFrom_toDigits (n : Nat) : readFrom 10 0 (Nat.toDigits 10 n) = some n := by
  induction n using Nat.strongRecOn with
  | ind n ih =>
      by_cases hn : n < 10
      · rw [Nat.toDigits_of_lt_base hn, readFrom, digit?_digitChar hn]
        simp only [readFrom, Nat.zero_mul, Nat.zero_add]
      · -- The last digit is read after those of the tenth part.
        have hsplit := Nat.toDigits_of_base_le (b := 10) (by decide) (Nat.le_of_not_lt hn)
        have hlast : n % 10 < 10 := Nat.mod_lt n (by decide)
        rw [hsplit, readFrom_append, ih (n / 10) (by omega), Option.bind_some, readFrom,
          digit?_digitChar hlast]
        simp only [readFrom, Option.some.injEq]
        omega

theorem read?_toDigits (n : Nat) : read? 10 (Nat.toDigits 10 n) = some n := by
  rw [← readFrom_toDigits n]
  cases hdigits : Nat.toDigits 10 n with
  | nil => exact absurd hdigits Nat.toDigits_ne_nil
  | cons c cs => rfl

theorem head?_toDigits {n : Nat} (h : 0 < n) : (Nat.toDigits 10 n).head? ≠ some '0' := by
  induction n using Nat.strongRecOn with
  | ind n ih =>
      by_cases hn : n < 10
      · have hall : ∀ n < 10, 0 < n → [n.digitChar].head? ≠ some '0' := by decide
        rw [Nat.toDigits_of_lt_base hn]
        exact hall n hn h
      · -- The first digit is that of the tenth part, which is not zero either.
        have hsplit := Nat.toDigits_of_base_le (b := 10) (by decide) (Nat.le_of_not_lt hn)
        have hsome : (Nat.toDigits 10 (n / 10)).head?.isSome = true :=
          List.isSome_head?.mpr Nat.toDigits_ne_nil
        rw [hsplit, List.head?_append, Option.or_of_isSome hsome]
        exact ih (n / 10) (by omega) (by omega)

theorem toDigits_ne_padded (n : Nat) (c : Char) (cs : List Char) :
    Nat.toDigits 10 n ≠ '0' :: c :: cs := by
  intro h
  cases n with
  | zero => cases h
  | succ n =>
      have hhead := head?_toDigits (Nat.succ_pos n)
      rw [h] at hhead
      exact hhead rfl

theorem toDigits_ne_cons (n : Nat) {c : Char} (h : c.isDigit = false) (cs : List Char) :
    Nat.toDigits 10 n ≠ c :: cs := by
  intro hdigits
  have hmem : c ∈ Nat.toDigits 10 n := hdigits ▸ List.mem_cons_self
  have hdigit : c.isDigit = true := Nat.isDigit_of_mem_toDigits (by decide) (by decide) hmem
  exact absurd (h.symm.trans hdigit) Bool.false_ne_true

/-! ### What is read -/

/-- One or more decimal digits, and nothing else. -/
structure IsDecimal (cs : List Char) : Prop where
  nonempty : cs ≠ []
  digits : ∀ c ∈ cs, c.isDigit = true

/-- What decimal digits count. -/
def value (cs : List Char) : Nat := Nat.ofDigitChars 10 cs 0

theorem isDigit_iff {c : Char} : c.isDigit = true ↔ '0'.toNat ≤ c.toNat ∧ c.toNat ≤ '9'.toNat := by
  rw [Char.isDigit, Bool.and_eq_true, decide_eq_true_eq, decide_eq_true_eq]
  exact and_congr UInt32.le_iff_toNat_le UInt32.le_iff_toNat_le

/-- In radix ten the letters are too large to be digits. -/
theorem digit?_ten (c : Char) :
    digit? 10 c = if c.isDigit then some (c.toNat - '0'.toNat) else none := by
  have hle {a b : Char} : a ≤ b ↔ a.toNat ≤ b.toNat := UInt32.le_iff_toNat_le
  have hdigit : c.isDigit = true ↔ '0' ≤ c ∧ c ≤ '9' :=
    isDigit_iff.trans (and_congr hle.symm hle.symm)
  unfold digit?
  by_cases hc : c.isDigit = true
  · have hnine : c.toNat ≤ 57 := hle.mp (hdigit.mp hc).2
    rw [if_pos (hdigit.mp hc), if_pos hc]
    exact Option.filter_some_pos (decide_eq_true (by omega))
  · rw [if_neg (fun h => hc (hdigit.mpr h)), if_neg hc]
    split
    case isTrue h =>
      have ha : 97 ≤ c.toNat := hle.mp h.1
      exact Option.filter_some_neg (decide_eq_false (by omega))
    case isFalse =>
      split
      case isTrue h =>
        have ha : 65 ≤ c.toNat := hle.mp h.1
        exact Option.filter_some_neg (decide_eq_false (by omega))
      case isFalse => rfl

theorem readFrom_eq_some_iff {start n : Nat} {cs : List Char} :
    readFrom 10 start cs = some n ↔
      (∀ c ∈ cs, c.isDigit = true) ∧ Nat.ofDigitChars 10 cs start = n := by
  induction cs generalizing start with
  | nil => simp [readFrom]
  | cons c cs ih =>
      rw [readFrom, digit?_ten, Nat.ofDigitChars_cons, List.forall_mem_cons, and_assoc,
        Nat.mul_comm 10 start]
      by_cases hc : c.isDigit = true
      · simp only [hc, if_true, ih, true_and]
      · simp [hc]

theorem read?_eq_some_iff {n : Nat} {cs : List Char} :
    read? 10 cs = some n ↔ IsDecimal cs ∧ value cs = n := by
  cases cs with
  | nil => exact ⟨fun h => (Option.some_ne_none n h.symm).elim, fun h => absurd rfl h.1.nonempty⟩
  | cons c cs =>
      rw [read?, readFrom_eq_some_iff]
      · exact and_congr_left fun _ => ⟨fun h => ⟨List.cons_ne_nil c cs, h⟩, IsDecimal.digits⟩
      · exact List.cons_ne_nil c cs

/-- A numeral is read as a word if and only if the word holds what it counts. -/
theorem readWord?_eq_some_iff {w : UInt32} {cs : List Char} :
    readWord? cs = some w ↔ IsDecimal cs ∧ value cs = w.toNat := by
  unfold readWord?
  cases hread : read? 10 cs with
  | none =>
      refine ⟨fun h => (Option.some_ne_none w h.symm).elim, fun h => ?_⟩
      rw [read?_eq_some_iff.mpr h] at hread
      exact (Option.some_ne_none _ hread).elim
  | some n =>
      rcases read?_eq_some_iff.mp hread with ⟨hdecimal, rfl⟩
      have hword := w.toNat_lt
      simp only [hdecimal, true_and]
      constructor
      · intro h
        split at h
        case isTrue hlt =>
          cases h
          exact (UInt32.toNat_ofNat_of_lt' hlt).symm
        case isFalse => cases h
      · intro h
        rw [if_pos (h ▸ hword), h, UInt32.ofNat_toNat]

theorem isDecimal_toDigits (n : Nat) : IsDecimal (Nat.toDigits 10 n) :=
  ⟨Nat.toDigits_ne_nil, fun _ => Nat.isDigit_of_mem_toDigits (by decide) (by decide)⟩

theorem value_toDigits (n : Nat) : value (Nat.toDigits 10 n) = n :=
  Nat.ofDigitChars_ten_toDigits

theorem value_concat (cs : List Char) (c : Char) :
    value (cs ++ [c]) = 10 * value cs + (c.toNat - '0'.toNat) := by
  rw [value, Nat.ofDigitChars_append, Nat.ofDigitChars_cons, Nat.ofDigitChars_nil, value]

theorem value_zero_cons (cs : List Char) : value ('0' :: cs) = value cs := by
  rw [value, Nat.ofDigitChars_cons]
  rfl

theorem digitChar_of_isDigit {c : Char} (h : c.isDigit = true) :
    c.toNat - '0'.toNat < 10 ∧ (c.toNat - '0'.toNat).digitChar = c := by
  rcases isDigit_iff.mp h with ⟨hzero, hnine⟩
  have hten : c.toNat - '0'.toNat < 10 :=
    Nat.lt_of_le_of_lt (Nat.sub_le_sub_right hnine 48) (by decide)
  refine ⟨hten, Char.toNat_inj.mp ?_⟩
  rw [Nat.toNat_digitChar_of_lt_ten hten]
  exact Nat.add_sub_of_le hzero

/-- Without a leading zero a numeral counts at least what its first digit does. -/
theorem value_pos {cs : List Char} (h : IsDecimal cs) (hhead : cs.head? ≠ some '0') :
    0 < value cs := by
  cases cs with
  | nil => exact absurd rfl h.nonempty
  | cons c cs =>
      rcases isDigit_iff.mp (h.digits c List.mem_cons_self) with ⟨hzero, -⟩
      have hne : '0'.toNat ≠ c.toNat :=
        fun heq => hhead (congrArg some (Char.toNat_inj.mp heq).symm)
      have hfirst : 0 < c.toNat - '0'.toNat := by omega
      rw [value, Nat.ofDigitChars_cons, Nat.ofDigitChars_eq_ofDigitChars_zero, Nat.mul_zero,
        Nat.zero_add]
      exact Nat.add_pos_left (Nat.mul_pos (Nat.pow_pos (by decide)) hfirst) _

/-- A numeral without a leading zero is written like the number it counts. The last digit is what is
    left after division by ten, so the induction takes it off at the end. -/
theorem toDigits_value {cs : List Char} (h : IsDecimal cs) (hhead : cs.head? ≠ some '0') :
    Nat.toDigits 10 (value cs) = cs := by
  induction cs using List.reverseRecOn with
  | nil => exact absurd rfl h.nonempty
  | append_singleton cs c ih =>
      rcases digitChar_of_isDigit (h.digits c (by simp)) with ⟨hten, hchar⟩
      rw [value_concat]
      by_cases hcs : cs = []
      · rw [hcs, show value [] = 0 from rfl, Nat.mul_zero, Nat.zero_add,
          Nat.toDigits_of_lt_base hten, hchar, List.nil_append]
      · have hrest : IsDecimal cs := ⟨hcs, fun d hd => h.digits d (List.mem_append_left _ hd)⟩
        rw [List.head?_append, Option.or_of_isSome (List.isSome_head?.mpr hcs)] at hhead
        have hpos := value_pos hrest hhead
        rw [Nat.toDigits_of_base_le (by decide) (by omega), Nat.mul_add_div (by decide),
          Nat.div_eq_of_lt hten, Nat.mul_add_mod, Nat.mod_eq_of_lt hten, hchar, Nat.add_zero,
          ih hrest hhead]

/-- A numeral that does not count zero, without its leading zeros, is written like the number it
    counts. -/
theorem toDigits_value_eq_dropWhile {cs : List Char} (h : IsDecimal cs) (hpos : 0 < value cs) :
    Nat.toDigits 10 (value cs) = cs.dropWhile (· = '0') := by
  induction cs with
  | nil => exact absurd rfl h.nonempty
  | cons c cs ih =>
      by_cases hc : c = '0'
      · rw [hc, value_zero_cons] at hpos ⊢
        have hcs : cs ≠ [] := by
          rintro rfl
          exact absurd hpos (by decide)
        rw [List.dropWhile_cons_of_pos (by simp)]
        exact ih ⟨hcs, fun d hd => h.digits d (List.mem_cons_of_mem c hd)⟩ hpos
      · rw [List.dropWhile_cons_of_neg (by simp [hc])]
        exact toDigits_value h fun heq => hc (Option.some.inj heq)

end Numeral

end Manuscript
