import Manuscript.Proofs.Text.ByteOrder
import Manuscript.Yaml.Cursor
import Manuscript.Yaml.Scalar.Writing

/-!
# Places on a Line

How far reading gets on a line. For most of what is read only two things count
about the place where it ends: that it is still on the line, and how many
octets later it is at most. `Mark.Within` says both, and bounds add up.

A value that ends its line is followed by another line or by nothing. Reading
goes on at the first word of that line, and where that is can be said by
`toToken`, whether or not the value itself was read as far as there.

## Main definitions

* `Yaml.octets`: The length of a text in octets.
* `Yaml.Mark.Within`: A later place on the same line.
* `Yaml.StartsWord`, `Yaml.Starts`: The characters, and the texts, that start with a word.
* `Yaml.Follows`: What may come after a value that ends its line.

## Theorems

* `Yaml.Mark.Within.trans`: Two ways along a line make up one.
* `Yaml.toToken_line`: The next word of a text stands after the indentation of its line.
-/

namespace Manuscript

namespace Yaml

/-- How many octets the text takes. -/
def octets : List Char → Nat
  | [] => 0
  | c :: cs => c.utf8Size + octets cs

theorem octets_cons (c : Char) (cs : List Char) : octets (c :: cs) = c.utf8Size + octets cs := rfl

theorem octets_toList (s : String) : octets s.toList = s.utf8ByteSize := by
  have hsize : s.utf8ByteSize = (bytes s).length := rfl
  rw [hsize, bytes_eq]
  induction s.toList with
  | nil => rfl
  | cons c cs ih =>
      rw [List.flatMap_cons, List.length_append, String.length_utf8EncodeChar, ← ih, octets_cons]

namespace Mark

theorem steps_steps (m : Mark) (j k : Nat) : (m.steps j).steps k = m.steps (j + k) := by
  simp only [steps, Nat.add_assoc]

theorem step_space (m : Mark) : m.step ' ' = m.steps 1 := rfl

/-- The mark `m'` is on the line of `m`, not before it, and at most `n` octets later. -/
structure Within (n : Nat) (m m' : Mark) : Prop where
  line : m'.line = m.line
  column : m.column ≤ m'.column
  index : m'.index ≤ m.index + n

namespace Within

theorem refl (m : Mark) : Within 0 m m := ⟨rfl, Nat.le_refl _, Nat.le_refl _⟩

theorem step (m : Mark) (c : Char) : Within c.utf8Size m (m.step c) :=
  ⟨rfl, Nat.le_succ _, Nat.le_refl _⟩

theorem steps (m : Mark) (n : Nat) : Within n m (m.steps n) :=
  ⟨rfl, Nat.le_add_right _ _, Nat.le_refl _⟩

theorem trans {n k : Nat} {a b c : Mark} (hab : Within n a b) (hbc : Within k b c) :
    Within (n + k) a c where
  line := hbc.line.trans hab.line
  column := Nat.le_trans hab.column hbc.column
  index := by
    have hb := hab.index
    have hc := hbc.index
    omega

theorem past (m : Mark) (cs : List Char) : Within (octets cs) m (m.past cs) := by
  induction cs generalizing m with
  | nil => exact refl m
  | cons c cs ih => exact octets_cons c cs ▸ (step m c).trans (ih (m.step c))

theorem mono {n k : Nat} {a b : Mark} (h : Within n a b) (hle : n ≤ k) : Within k a b :=
  ⟨h.line, h.column, Nat.le_trans h.index (Nat.add_le_add_left hle _)⟩

end Within

end Mark

/-! ### Classes of characters -/

/-- What holds of each character of a text can be decided by going through the text, and need not be
    decided for all characters. -/
theorem forall_mem_of_all {p : Char → Prop} [DecidablePred p] {cs : List Char}
    (h : cs.all (fun c => decide (p c)) = true) : ∀ c ∈ cs, p c :=
  fun c hc => of_decide_eq_true (List.all_eq_true.mp h c hc)

theorem isGap_eq_false_iff {c : Char} : isGap c = false ↔ c ≠ ' ' ∧ c ≠ '\t' := by
  rw [isGap, Bool.or_eq_false_iff, decide_eq_false_iff_not, decide_eq_false_iff_not]

theorem ne_lineFeed_of_unbroken {c : Char} (h : isBreak c = false) : c ≠ '\n' := by
  rintro rfl
  cases h

/-- No line break of two characters starts within a line. -/
theorem ne_return_of_unbroken {c : Char} (h : isBreak c = false) : c ≠ '\r' := by
  rintro rfl
  cases h

theorem ne_return_of_isWritable {c : Char} (h : isWritable c = true) : c ≠ '\r' := by
  rintro rfl
  cases h

theorem ne_tab_of_isWritable {c : Char} (h : isWritable c = true) : c ≠ '\t' := by
  rintro rfl
  cases h

/-! ### What comes on the next line -/

/-- A word can start with the character, wherever blanks come before it. -/
structure StartsWord (c : Char) : Prop where
  unbroken : isBreak c = false
  noGap : isGap c = false
  noComment : c ≠ '#'
  noMark : c ≠ byteOrderMark

theorem startsWord_iff {c : Char} : StartsWord c ↔
    isBreak c = false ∧ isGap c = false ∧ c ≠ '#' ∧ c ≠ byteOrderMark :=
  ⟨fun h => ⟨h.unbroken, h.noGap, h.noComment, h.noMark⟩,
    fun ⟨hbreak, hgap, hcomment, hmark⟩ => ⟨hbreak, hgap, hcomment, hmark⟩⟩

instance (c : Char) : Decidable (StartsWord c) := decidable_of_iff' _ startsWord_iff

/-- The text starts with a word. -/
def Starts (cs : List Char) : Prop := ∃ c rest, cs = c :: rest ∧ StartsWord c

theorem Starts.append {cs : List Char} (h : Starts cs) (tail : List Char) :
    Starts (cs ++ tail) := by
  rcases h with ⟨c, rest, rfl, hc⟩
  exact ⟨c, rest ++ tail, rfl, hc⟩

/-- What comes after a value: the end of the text, or a line that is indented by so many columns at
    most. -/
inductive Follows (limit : Nat) : List Char → Prop
  | finish : Follows limit []
  | line {k : Nat} (hk : k ≤ limit) {c : Char} (hc : StartsWord c) (cs : List Char) :
      Follows limit (indentation k ++ c :: cs)

theorem Follows.of_starts {limit k : Nat} (hk : k ≤ limit) {cs : List Char} (h : Starts cs) :
    Follows limit (indentation k ++ cs) := by
  rcases h with ⟨c, rest, rfl, hc⟩
  exact .line hk hc rest

theorem Follows.mono {limit more : Nat} (hle : limit ≤ more) {cs : List Char}
    (h : Follows limit cs) : Follows more cs := by
  cases h with
  | finish => exact .finish
  | line hk hc cs => exact .line (Nat.le_trans hk hle) hc cs

/-- What passes over one space passes over the indentation of a line. -/
theorem pass_indentation {α : Type} {f : Mark → List Char → α}
    (h : ∀ m cs, f m (' ' :: cs) = f (m.steps 1) cs) (m : Mark) (k : Nat) (cs : List Char) :
    f m (indentation k ++ cs) = f (m.steps k) cs := by
  induction k generalizing m with
  | zero => rfl
  | succ k ih =>
      rw [indentation, List.replicate_succ, List.cons_append, ← indentation, h, ih,
        Mark.steps_steps, Nat.add_comm]

/-- Blanks at the start of a line are passed over up to its first word. -/
theorem toToken_indentation (keyAllowed : Bool) (m : Mark) (k : Nat) (cs : List Char) :
    toToken false keyAllowed false m (indentation k ++ cs) =
      toToken false keyAllowed false (m.steps k) cs :=
  pass_indentation (fun _ _ => rfl) m k cs

theorem toToken_word {c : Char} (hc : StartsWord c) {inFlow : Bool} (keyAllowed : Bool) (m : Mark)
    (cs : List Char) :
    toToken inFlow keyAllowed false m (c :: cs) = (keyAllowed, ⟨m, c :: cs⟩) := by
  have hreturn := ne_return_of_unbroken hc.unbroken
  have hgap := isGap_eq_false_iff.mp hc.noGap
  rw [toToken.eq_2 _ _ _ _ _ _ fun _ heq => absurd heq hreturn, hc.unbroken]
  simp only [hgap.1, hgap.2, hc.noMark, hc.noComment, decide_false, Bool.false_and, Bool.or_false,
    Bool.false_eq_true, if_false]

theorem toToken_line {c : Char} (hc : StartsWord c) (keyAllowed : Bool) (m : Mark) (k : Nat)
    (cs : List Char) :
    toToken false keyAllowed false m (indentation k ++ c :: cs) =
      (keyAllowed, ⟨m.steps k, c :: cs⟩) := by
  rw [toToken_indentation, toToken_word hc]

end Yaml

end Manuscript
