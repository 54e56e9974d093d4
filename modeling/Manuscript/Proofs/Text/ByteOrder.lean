/-!
# The Order of Bytes

Texts are compared by the code points of their characters, and that is also
how their bytes in UTF-8 compare. It is the way in which a character is
encoded that makes it so, and the layer shows why.

The bytes of a character are the digits of its code point in base 64, the
first digit raised by a mark that says how many digits follow. Numbers of
equally many digits compare like their digits. A number with more digits is
greater, and it also has the greater first byte, since its mark is greater
than any first byte with a smaller mark. So two different characters are told
apart by their own bytes, whatever comes after them.

## Main definitions

* `bytes`: The bytes of a text in UTF-8.
* `digits`: A number in base 64 with a mark on its first digit.

## Theorems

* `digits_lt_digits`: Equally many digits compare like their numbers.
* `utf8EncodeChar_eq`: A character is encoded by such digits.
* `utf8EncodeChar_append_lt`: The bytes of characters compare like the characters.
* `bytes_lt_bytes_iff`: The bytes of texts compare like the texts.
-/

namespace Manuscript

/-- The bytes of a text in UTF-8. -/
def bytes (s : String) : List UInt8 := s.toUTF8.data.toList

theorem bytes_eq (s : String) : bytes s = s.toList.flatMap String.utf8EncodeChar := by
  rw [bytes, String.toUTF8_eq_toByteArray, ← String.utf8Encode_toList]
  exact List.toList_data_toByteArray

/-! ### Digits -/

/-- A number in base 64 with `k` digits after the first one, which is raised by `mark`. -/
def digits (mark : Nat) : Nat → Nat → List UInt8
  | 0, v => [UInt8.ofNat (v + mark)]
  | k + 1, v => digits mark k (v / 64) ++ [UInt8.ofNat (v % 64 + 128)]

/-- What comes before the last `k` digits of a number. -/
def leading : Nat → Nat → Nat
  | 0, v => v
  | k + 1, v => leading k (v / 64)

theorem ofNat_lt_ofNat {a b : Nat} (h : a < b) (hb : b < 256) :
    UInt8.ofNat a < UInt8.ofNat b := by
  rw [UInt8.lt_iff_toNat_lt, UInt8.toNat_ofNat', UInt8.toNat_ofNat', Nat.mod_eq_of_lt hb,
    Nat.mod_eq_of_lt (Nat.lt_trans h hb)]
  exact h

theorem digits_eq_cons (mark k v : Nat) :
    ∃ rest, digits mark k v = UInt8.ofNat (leading k v + mark) :: rest := by
  induction k generalizing v with
  | zero => exact ⟨[], rfl⟩
  | succ k ih =>
      rcases ih (v / 64) with ⟨rest, hrest⟩
      exact ⟨rest ++ [UInt8.ofNat (v % 64 + 128)], by rw [digits, hrest]; rfl⟩

/-- Equally many digits compare like their numbers, whatever comes after them. -/
theorem digits_lt_digits {mark k v w : Nat} (h : v < w) (hw : leading k w + mark < 256)
    (l r : List UInt8) : digits mark k v ++ l < digits mark k w ++ r := by
  induction k generalizing v w l r with
  | zero => exact List.cons_lt_cons_iff.mpr (Or.inl (ofNat_lt_ofNat (Nat.add_lt_add_right h _) hw))
  | succ k ih =>
      rw [digits, digits, List.append_assoc, List.append_assoc]
      -- Either the digits before the last one decide, or they agree and the last one does.
      by_cases hlt : v / 64 < w / 64
      · exact ih hlt hw _ _
      · have heq : v / 64 = w / 64 := by omega
        rw [heq]
        refine List.append_left_lt (List.cons_lt_cons_iff.mpr (Or.inl ?_))
        exact ofNat_lt_ofNat (by omega) (by omega)

/-- The first digits with their marks decide if they differ. -/
theorem digits_lt_of_leading {mark mark' k k' v w : Nat}
    (h : leading k v + mark < leading k' w + mark') (hw : leading k' w + mark' < 256)
    (l r : List UInt8) : digits mark k v ++ l < digits mark' k' w ++ r := by
  rcases digits_eq_cons mark k v with ⟨s, hs⟩
  rcases digits_eq_cons mark' k' w with ⟨t, ht⟩
  rw [hs, ht]
  exact List.cons_lt_cons_iff.mpr (Or.inl (ofNat_lt_ofNat h hw))

/-! ### Characters -/

/-- How many digits follow the first one in the encoding of a code point. -/
def following (v : Nat) : Nat :=
  if v ≤ 0x7f then 0 else if v ≤ 0x7ff then 1 else if v ≤ 0xffff then 2 else 3

/-- The mark of a first digit that others follow. -/
def markOf : Nat → Nat
  | 0 => 0
  | 1 => 0xc0
  | 2 => 0xe0
  | 3 => 0xf0
  | _ => 0xf8

theorem following_le {v w : Nat} (h : v ≤ w) : following v ≤ following w := by
  unfold following
  grind

theorem markOf_le_succ : ∀ k, markOf k ≤ markOf (k + 1)
  | 0 => by decide
  | 1 => by decide
  | 2 => by decide
  | 3 => by decide
  | _ + 4 => Nat.le_refl _

theorem markOf_le {a b : Nat} (h : a ≤ b) : markOf a ≤ markOf b := by
  induction h with
  | refl => exact Nat.le_refl _
  | step _ ih => exact Nat.le_trans ih (markOf_le_succ _)

theorem markOf_lt (k : Nat) : markOf k < 256 :=
  Nat.lt_of_le_of_lt (markOf_le (Nat.le_add_right k 4)) (by simp only [markOf]; omega)

theorem val_lt (c : Char) : c.val.toNat < 0x110000 := by
  have hc := c.valid
  unfold UInt32.isValidChar Nat.isValidChar at hc
  omega

theorem utf8EncodeChar_eq (c : Char) :
    String.utf8EncodeChar c =
      digits (markOf (following c.val.toNat)) (following c.val.toNat) c.val.toNat := by
  have hc := val_lt c
  unfold String.utf8EncodeChar following
  generalize c.val.toNat = v at *
  by_cases h1 : v ≤ 0x7f
  · simp only [h1, if_true]
    rfl
  · by_cases h2 : v ≤ 0x7ff
    · simp only [h1, h2, if_true, if_false]
      have hlead : v / 64 % 32 = v / 64 := by omega
      rw [hlead]
      rfl
    · by_cases h3 : v ≤ 0xffff
      · simp only [h1, h2, h3, if_true, if_false]
        have hlead : v / 4096 % 16 = v / 64 / 64 := by omega
        rw [hlead]
        rfl
      · simp only [h1, h2, h3, if_false]
        have hlead : v / 262144 % 8 = v / 64 / 64 / 64 := by omega
        have hnext : v / 4096 = v / 64 / 64 := by omega
        rw [hlead, hnext]
        rfl

/-- The first byte of a code point is smaller than all marks for more digits. -/
theorem leading_lt {v : Nat} (hv : v < 0x110000) :
    leading (following v) v + markOf (following v) < markOf (following v + 1) := by
  unfold following
  by_cases h1 : v ≤ 0x7f
  · simp only [h1, if_true, leading, markOf]
    omega
  · by_cases h2 : v ≤ 0x7ff
    · simp only [h1, h2, if_true, if_false, leading, markOf]
      omega
    · by_cases h3 : v ≤ 0xffff
      · simp only [h1, h2, h3, if_true, if_false, leading, markOf]
        omega
      · simp only [h1, h2, h3, if_false, leading, markOf]
        omega

theorem utf8EncodeChar_append_lt {c d : Char} (h : c < d) (l r : List UInt8) :
    String.utf8EncodeChar c ++ l < String.utf8EncodeChar d ++ r := by
  have hlt : c.val.toNat < d.val.toNat := h
  have hc := leading_lt (val_lt c)
  have hd := leading_lt (val_lt d)
  have hmono := following_le (Nat.le_of_lt hlt)
  have hbyte : leading (following d.val.toNat) d.val.toNat + markOf (following d.val.toNat) < 256 :=
    Nat.lt_trans hd (markOf_lt _)
  rw [utf8EncodeChar_eq, utf8EncodeChar_eq]
  -- With more digits the first byte is greater, with equally many the digits decide.
  by_cases hmore : following c.val.toNat < following d.val.toNat
  · have hmark : markOf (following c.val.toNat + 1) ≤ markOf (following d.val.toNat) :=
      markOf_le hmore
    exact digits_lt_of_leading (by omega) hbyte l r
  · have hsame : following c.val.toNat = following d.val.toNat := by omega
    rw [hsame]
    exact digits_lt_digits hlt hbyte l r

/-! ### Texts -/

/-- Texts that differ are told apart by the bytes of the first character in which they do, or by
    those of the first that only one of them has. -/
theorem bytes_lt_bytes {a b : String} (h : a < b) : bytes a < bytes b := by
  rw [bytes_eq, bytes_eq]
  have hlex : List.Lex (· < ·) a.toList b.toList := h
  generalize a.toList = l at hlex
  generalize b.toList = r at hlex
  induction hlex with
  | nil =>
      rw [List.flatMap_nil, List.flatMap_cons, utf8EncodeChar_eq]
      rcases digits_eq_cons _ _ _ with ⟨rest, hrest⟩
      rw [hrest]
      exact List.nil_lt_cons _ _
  | cons _ ih =>
      rw [List.flatMap_cons, List.flatMap_cons]
      exact List.append_left_lt ih
  | rel hlt =>
      rw [List.flatMap_cons, List.flatMap_cons]
      exact utf8EncodeChar_append_lt hlt _ _

/-- Comparison of texts is comparison of their bytes. -/
theorem bytes_lt_bytes_iff {a b : String} : bytes a < bytes b ↔ a < b := by
  refine ⟨fun h => ?_, bytes_lt_bytes⟩
  rcases Std.lt_trichotomy a b with hlt | heq | hgt
  · exact hlt
  · rw [heq] at h
    exact absurd h Std.lt_irrefl
  · exact absurd (Std.lt_trans h (bytes_lt_bytes hgt)) Std.lt_irrefl

end Manuscript
