import Manuscript.Proofs.Yaml.Scalar.Style
import Manuscript.Yaml.Printer

/-!
# Starts of Printed Lines

Every line that is printed starts with a word, after its indentation. That is a
scalar, a dash or a question mark. So whatever is printed may follow a value
that ends its line, and a value may follow a space.

The numeral of a number is printed as it is, and it has to be one for this.

## Main definitions

* `Data.numerals`: The numerals of the numbers in data.
* `IsNumeral`: One or more decimal digits.

## Theorems

* `Yaml.printValue_starts`, `Yaml.printField_starts`: What is printed starts with a word.
* `Yaml.follows_printItems`, `Yaml.follows_printFields`: Further items and fields may follow.
-/

namespace Manuscript

namespace Data

mutual

/-- The numerals of the numbers. -/
def numerals : Data → List String
  | .number n => [n]
  | .list items => numeralsOfItems items
  | .record fields => numeralsOfFields fields
  | _ => []

def numeralsOfItems : List Data → List String
  | [] => []
  | item :: rest => item.numerals ++ numeralsOfItems rest

def numeralsOfFields : List (String × Data) → List String
  | [] => []
  | (_, value) :: rest => value.numerals ++ numeralsOfFields rest

end

theorem numeralsOfItems_eq (items : List Data) :
    numeralsOfItems items = items.flatMap numerals := by
  induction items with
  | nil => rfl
  | cons item rest ih => rw [numeralsOfItems, ih, List.flatMap_cons]

theorem numeralsOfFields_eq (fields : List (String × Data)) :
    numeralsOfFields fields = fields.flatMap fun field => field.2.numerals := by
  induction fields with
  | nil => rfl
  | cons field rest ih => rw [numeralsOfFields, ih, List.flatMap_cons]

end Data

/-- The text is one or more decimal digits. -/
structure IsNumeral (s : String) : Prop where
  nonempty : s.toList ≠ []
  digits : ∀ c ∈ s.toList, c.isDigit = true

namespace Yaml

/-! ### Numerals -/

/-- The decimal digits. -/
def decimalDigits : List Char := ['0', '1', '2', '3', '4', '5', '6', '7', '8', '9']

theorem mem_decimalDigits {c : Char} (h : c.isDigit = true) : c ∈ decimalDigits := by
  have hall : ∀ n < 58, 48 ≤ n → Char.ofNat n ∈ decimalDigits := by decide
  rw [Char.isDigit, Bool.and_eq_true, decide_eq_true_eq, decide_eq_true_eq] at h
  have hlow : 48 ≤ c.toNat := UInt32.le_iff_toNat_le.mp h.1
  have hhigh : c.toNat ≤ 57 := UInt32.le_iff_toNat_le.mp h.2
  have hmem := hall c.toNat (by omega) hlow
  rwa [Char.ofNat_toNat] at hmem

theorem startsWord_of_isDigit {c : Char} (h : c.isDigit = true) : StartsWord c := by
  have hall : ∀ c ∈ decimalDigits, StartsWord c := forall_mem_of_all (by decide)
  exact hall c (mem_decimalDigits h)

theorem isWritable_of_isDigit {c : Char} (h : c.isDigit = true) : isWritable c = true := by
  have hall : ∀ c ∈ decimalDigits, isWritable c = true := forall_mem_of_all (by decide)
  exact hall c (mem_decimalDigits h)

theorem startsWithIndicator_of_isDigit {c : Char} (h : c.isDigit = true) (cs : List Char) :
    startsWithIndicator (c :: cs) = false := by
  have hnot (d : Char) (hd : d.isDigit = false) : c ≠ d := by
    rintro rfl
    rw [hd] at h
    cases h
  have hindicators : ∀ d ∈ "#,[]\x7b\x7d&*!|>'\"%@`".toList, d.isDigit = false :=
    forall_mem_of_all (by decide)
  unfold startsWithIndicator
  split
  · next heq => exact absurd (List.cons_eq_cons.mp heq).1 (hnot '-' rfl)
  · next heq => exact absurd (List.cons_eq_cons.mp heq).1 (hnot '.' rfl)
  · next heq =>
      rcases List.cons_eq_cons.mp heq with ⟨rfl, rfl⟩
      simp only [hnot '-' rfl, hnot '?' rfl, hnot ':' rfl, decide_false, Bool.or_false,
        Bool.false_eq_true, if_false]
      rw [← Bool.not_eq_true, List.contains_iff_mem]
      exact fun hmem => hnot c (hindicators c hmem) rfl
  · next heq => cases heq

theorem hasIndicator_of_isDigit {cs : List Char} (h : ∀ c ∈ cs, c.isDigit = true) :
    hasIndicator cs = false := by
  induction cs with
  | nil => rfl
  | cons c cs ih =>
      have hc := h c List.mem_cons_self
      have hcolon : c ≠ ':' := by
        rintro rfl
        cases hc
      rw [hasIndicator, decide_eq_false hcolon, (startsWord_of_isDigit hc).noGap,
        (startsWord_of_isDigit hc).unbroken, ih fun d hd => h d (List.mem_cons_of_mem c hd)]
      rfl

theorem plainText_of_isNumeral {s : String} (h : IsNumeral s) : PlainText s.toList := by
  have hspace : ' ' ∉ s.toList := fun hmem => by cases h.digits ' ' hmem
  have hdigits := h.digits
  exact {
    head := fun heq => hspace (List.mem_of_head? heq)
    last := fun heq => hspace (List.mem_of_getLast? heq)
    writable := fun c hc => isWritable_of_isDigit (hdigits c hc)
    unbroken := fun c hc => (startsWord_of_isDigit (hdigits c hc)).unbroken
    start := by
      cases hcs : s.toList with
      | nil => rfl
      | cons c cs => exact startsWithIndicator_of_isDigit (hdigits c (hcs ▸ List.mem_cons_self)) cs
    inner := hasIndicator_of_isDigit fun c hc => hdigits c (List.mem_of_mem_tail hc) }

theorem starts_of_isNumeral {s : String} (h : IsNumeral s) : Starts s.toList := by
  cases hcs : s.toList with
  | nil => exact absurd hcs h.nonempty
  | cons c cs => exact ⟨c, cs, rfl, startsWord_of_isDigit (h.digits c (hcs ▸ List.mem_cons_self))⟩

/-! ### Starts -/

theorem endLine_starts {cs : List Char} (h : Starts cs) : Starts (endLine cs) := by
  rw [endLine]
  split
  · exact h
  · exact h.append ['\n']

theorem printLeaf_starts (column : Nat) {d : Data} (h : ∀ n ∈ d.numerals, IsNumeral n) :
    Starts (printLeaf column d) := by
  cases d with
  | null => exact ⟨_, _, rfl, by decide⟩
  | flag b => cases b <;> exact ⟨_, _, rfl, by decide⟩
  | number n => exact endLine_starts (starts_of_isNumeral (h n List.mem_cons_self))
  | text s => exact endLine_starts (writeScalar_starts column s)
  | list items => exact ⟨_, _, rfl, by decide⟩
  | record fields => exact ⟨_, _, rfl, by decide⟩

theorem printField_starts (column : Nat) (field : String × Data) :
    Starts (printField column field) := by
  rw [printField]
  split
  · exact (writeScalar_starts (column + 2) field.1).append _
  · exact ⟨_, _, rfl, by decide⟩

theorem printValue_starts (column : Nat) {d : Data} (h : ∀ n ∈ d.numerals, IsNumeral n) :
    Starts (printValue column d) := by
  have hleaf := printLeaf_starts column h
  cases d with
  | null => exact hleaf
  | flag b => exact hleaf
  | number n => exact hleaf
  | text s => exact hleaf
  | list items =>
      cases items with
      | nil => exact hleaf
      | cons item rest => exact ⟨'-', _, rfl, by decide⟩
  | record fields =>
      cases fields with
      | nil => exact hleaf
      | cons field rest => exact (printField_starts column field).append _

/-! ### Further lines -/

theorem printItems_start (column : Nat) (start : List Char) {items : List Data} (h : items ≠ []) :
    printItems column start items = start ++ printItems column [] items := by
  cases items with
  | nil => exact absurd rfl h
  | cons item rest =>
      rw [printItems, printItems, List.append_assoc, List.append_assoc]
      rfl

theorem printFields_start (column : Nat) (start : List Char) {fields : List (String × Data)}
    (h : fields ≠ []) :
    printFields column start fields = start ++ printFields column [] fields := by
  cases fields with
  | nil => exact absurd rfl h
  | cons field rest =>
      rw [printFields, printFields, List.append_assoc, List.append_assoc]
      rfl

theorem printItems_starts (column : Nat) {items : List Data} (h : items ≠ []) :
    Starts (printItems column [] items) := by
  cases items with
  | nil => exact absurd rfl h
  | cons item rest => exact ⟨'-', _, rfl, by decide⟩

theorem printFields_starts (column : Nat) {fields : List (String × Data)} (h : fields ≠ []) :
    Starts (printFields column [] fields) := by
  cases fields with
  | nil => exact absurd rfl h
  | cons field rest => exact (printField_starts column field).append _

section

variable {limit column : Nat} {tail : List Char}

theorem follows_printItems (hcolumn : limit ≤ column) (htail : Follows limit tail)
    (items : List Data) :
    Follows column (printItems column (indentation column) items ++ tail) := by
  by_cases h : items = []
  · rw [h]
    exact htail.mono hcolumn
  · rw [printItems_start column _ h, List.append_assoc]
    exact .of_starts (Nat.le_refl _) ((printItems_starts column h).append tail)

theorem follows_printFields (hcolumn : limit ≤ column) (htail : Follows limit tail)
    (fields : List (String × Data)) :
    Follows column (printFields column (indentation column) fields ++ tail) := by
  by_cases h : fields = []
  · rw [h]
    exact htail.mono hcolumn
  · rw [printFields_start column _ h, List.append_assoc]
    exact .of_starts (Nat.le_refl _) ((printFields_starts column h).append tail)

end

end Yaml

end Manuscript
