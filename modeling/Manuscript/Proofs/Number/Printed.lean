import Manuscript.Number.Item

/-!
# Printed Numbers

A number prints as its components in decimal, joined by dots. Since no digit is
a dot, the components can be read off again by splitting the text at its dots.
So components that print alike are alike.

The class of an element is printed before its number. Two names of classes
differ before either of them ends, so the class can be told from the text, too,
although one of the names has a space in it.

## Theorems

* `splitOn_dotted`: A printed number, split at its dots, gives the numerals of its components.
* `dotted_inj`: Components that print alike are alike.
* `ElementClass.name_append_inj`: A name of a class and what follows it are told from the text.
-/

namespace Manuscript

theorem toList_dotted (components : List Nat) :
    (dotted components).toList = ['.'].intercalate (components.map (Nat.toDigits 10)) := by
  have hnumeral : ∀ n : Nat, (toString n).toList = Nat.toDigits 10 n := fun n => Nat.toList_repr
  rw [dotted, String.toList_intercalate, List.map_map]
  exact congrArg (['.'].intercalate <| List.map · components) (funext hnumeral)

theorem dot_not_mem_toDigits (n : Nat) : '.' ∉ Nat.toDigits 10 n := by
  intro hdot
  have hdigit : '.'.isDigit = true := Nat.isDigit_of_mem_toDigits (by decide) (by decide) hdot
  exact absurd hdigit (by decide)

theorem splitOn_dotted {components : List Nat} (h : components ≠ []) :
    (dotted components).toList.splitOn '.' = components.map (Nat.toDigits 10) := by
  have hpieces : ∀ piece ∈ components.map (Nat.toDigits 10), '.' ∉ piece := by
    intro piece hpiece
    rcases List.mem_map.mp hpiece with ⟨n, -, rfl⟩
    exact dot_not_mem_toDigits n
  rw [toList_dotted]
  exact List.splitOn_intercalate '.' hpieces (fun hnil => h (List.map_eq_nil_iff.mp hnil))

/-- Digits determine the number they stand for. -/
theorem toDigits_inj {m n : Nat} (h : Nat.toDigits 10 m = Nat.toDigits 10 n) : m = n := by
  have hvalue := congrArg (fun digits => Nat.ofDigitChars 10 digits 0) h
  simpa only [Nat.ofDigitChars_ten_toDigits] using hvalue

theorem dotted_ne_empty {components : List Nat} (h : components ≠ []) : dotted components ≠ "" := by
  intro hempty
  have hsplit := splitOn_dotted h
  rw [hempty] at hsplit
  -- An empty text is one empty piece, and no numeral is empty.
  rcases List.exists_cons_of_ne_nil h with ⟨n, rest, rfl⟩
  exact Nat.toDigits_ne_nil (List.cons.inj hsplit).1.symm

theorem dotted_inj {a b : List Nat} (h : dotted a = dotted b) : a = b := by
  by_cases ha : a = []
  · by_cases hb : b = []
    · rw [ha, hb]
    · rw [ha] at h
      exact absurd h.symm (dotted_ne_empty hb)
  · by_cases hb : b = []
    · rw [hb] at h
      exact absurd h (dotted_ne_empty ha)
    · have hsplit : a.map (Nat.toDigits 10) = b.map (Nat.toDigits 10) := by
        rw [← splitOn_dotted ha, ← splitOn_dotted hb, h]
      exact List.map_inj_right (fun _ _ => toDigits_inj) |>.mp hsplit

/-- No name of a class, with the space after it, is the beginning of another one. -/
theorem ElementClass.name_append_inj {c k : ElementClass} {s t : String}
    (h : c.name ++ " " ++ s = k.name ++ " " ++ t) : c = k ∧ s = t := by
  rw [← String.toList_inj] at h
  cases c <;> cases k <;> simp_all [ElementClass.name, String.toList_inj]

end Manuscript
