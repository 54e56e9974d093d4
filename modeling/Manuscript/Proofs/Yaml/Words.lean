import Manuscript.Proofs.Text.Numeral
import Manuscript.Proofs.Yaml.Nesting

/-!
# Truth Values and Words that Are Read

A truth value and a word are written as plain scalars. What a plain scalar means
is decided by its text alone, and several readings are tried before that as a
decimal numeral: as the null value, as a numeral with a radix of its own, as one
that is padded with zeros and hence a text. None of them takes a numeral as it is
written for a number.

## Theorems

* `Yaml.readWhole?_toDigits`: A decimal numeral is a whole number.
* `Yaml.meaning_toString`: So it is a number.
* `Yaml.Schema.reads_flag`: A truth value is read.
* `Yaml.Schema.reads_word`: A word is read.
* `Yaml.Node.isThere_word`: A word is not null.
-/

namespace Manuscript

namespace Yaml

theorem isPaddedNumeral_toDigits (n : Nat) : isPaddedNumeral (Nat.toDigits 10 n) = false := by
  unfold isPaddedNumeral
  split
  -- There is no sign in front, so the digits are all there is.
  · next rest h => exact absurd h (Numeral.toDigits_ne_cons n (by decide) rest)
  · next rest h => exact absurd h (Numeral.toDigits_ne_cons n (by decide) rest)
  · dsimp only
    split
    · next d rest h => exact absurd h (Numeral.toDigits_ne_padded n d rest)
    · rfl

theorem readMagnitude?_toDigits (n : Nat) : readMagnitude? (Nat.toDigits 10 n) = some n := by
  unfold readMagnitude?
  split
  -- A radix stands after a zero, where a decimal numeral has nothing.
  · next rest h => exact absurd h (Numeral.toDigits_ne_padded n 'x' rest)
  · next rest h => exact absurd h (Numeral.toDigits_ne_padded n 'o' rest)
  · next rest h => exact absurd h (Numeral.toDigits_ne_padded n 'b' rest)
  · rw [isPaddedNumeral_toDigits, if_neg Bool.false_ne_true, Numeral.read?_toDigits]

theorem readWhole?_toDigits {n : Nat} (h : n < Nat.pow 2 64) :
    readWhole? (Nat.toDigits 10 n) = some (.natural n) := by
  unfold readWhole?
  split
  · next rest hminus => exact absurd hminus (Numeral.toDigits_ne_cons n (by decide) rest)
  · have hplus : (Nat.toDigits 10 n).head? ≠ some '+' := by
      intro hhead
      rcases List.head?_eq_some_iff.mp hhead with ⟨rest, hdigits⟩
      exact Numeral.toDigits_ne_cons n (by decide) rest hdigits
    -- Nothing is cut off in front, and the number fits the narrowest width.
    rw [if_neg hplus, readMagnitude?_toDigits]
    exact if_pos h

/-- A numeral is no text that starts with anything but a digit. -/
theorem toString_ne (n : Nat) {s : String} {c : Char} (hs : s.toList.head? = some c)
    (hc : c.isDigit = false) : toString n ≠ s := by
  rintro rfl
  rcases List.head?_eq_some_iff.mp hs with ⟨cs, hdigits⟩
  exact Numeral.toDigits_ne_cons n hc cs (Nat.toList_repr.symm.trans hdigits)

theorem isNullWord_toString (n : Nat) : isNullWord (toString n) = false := by
  have hlower : toString n ≠ "null" := toString_ne n (c := 'n') (by decide) (by decide)
  have htitle : toString n ≠ "Null" := toString_ne n (c := 'N') (by decide) (by decide)
  have hupper : toString n ≠ "NULL" := toString_ne n (c := 'N') (by decide) (by decide)
  have htilde : toString n ≠ "~" := toString_ne n (c := '~') (by decide) (by decide)
  simp only [isNullWord, hlower, htitle, hupper, htilde, decide_false, Bool.or_false]

theorem isEmpty_toString (n : Nat) : (toString n).isEmpty = false := by
  cases hempty : (toString n).isEmpty with
  | false => rfl
  | true =>
      have hnil : (toString n).toList = [] := by
        rw [String.isEmpty_iff.mp hempty]
        rfl
      exact absurd (Nat.toList_repr.symm.trans hnil) Nat.toDigits_ne_nil

theorem readFlag?_toString (n : Nat) : readFlag? (toString n) = none := by
  have hne (word : String) (c : Char) (hword : word.toList.head? = some c)
    (hc : c.isDigit = false) : toString n ≠ word := toString_ne n hword hc
  simp only [readFlag?, hne "true" 't' (by decide) (by decide),
    hne "True" 'T' (by decide) (by decide), hne "TRUE" 'T' (by decide) (by decide),
    hne "false" 'f' (by decide) (by decide), hne "False" 'F' (by decide) (by decide),
    hne "FALSE" 'F' (by decide) (by decide), or_self, if_false]

/-- A numeral stands for its number where that fits in 64 bits. -/
theorem meaning_toString {n : Nat} (h : n < Nat.pow 2 64) : meaning (toString n) = .natural n := by
  have hdigits : (toString n).toList = Nat.toDigits 10 n := Nat.toList_repr
  unfold meaning
  rw [isEmpty_toString, isNullWord_toString, readFlag?_toString]
  simp only [hdigits, readWhole?_toDigits h, Bool.or_self, Bool.false_eq_true, if_false]

namespace Node

def flag (b : Bool) : Node := plain (if b then "true" else "false")

def word (w : UInt32) : Node := plain (toString w.toNat)

theorem isThere_word (w : UInt32) : (word w).IsThere := by
  constructor
  · exact fun _ => rfl
  · have hplain : isPresent (word w) =
        .ok !((toString w.toNat).isEmpty || isNullWord (toString w.toNat)) := rfl
    rw [hplain, isEmpty_toString, isNullWord_toString]
    rfl

theorem naturalOf?_word (w : UInt32) : naturalOf? (word w) = some w.toNat := by
  have hwide : w.toNat < Nat.pow 2 64 := Nat.lt_trans w.toNat_lt (by decide)
  have hread : readWhole? (toString w.toNat).toList = some (.natural w.toNat) := by
    rw [show (toString w.toNat).toList = Nat.toDigits 10 w.toNat from Nat.toList_repr]
    exact readWhole?_toDigits hwide
  have htag : isValueOf "int" none .plain = true := rfl
  unfold word plain naturalOf?
  simp only [htag, if_true, hread]

end Node

namespace Schema

variable {bound : Nat}

theorem reads_flag (b : Bool) : flag.Reads bound (.flag b) b := by
  intro refs depth _
  cases b <;> exact (Reader.fitting_zero depth _).symm

theorem reads_word (w : UInt32) : word.Reads bound (.word w) w := by
  intro refs depth _
  have hsmall : w.toNat < UInt32.size := w.toNat_lt
  have hread : word.read refs depth (.word w) = readWord (.word w) := rfl
  rw [hread, readWord, Node.naturalOf?_word]
  simp only [hsmall, if_true, UInt32.ofNat_toNat]
  exact (Reader.fitting_zero depth w).symm

end Schema

end Yaml

end Manuscript
