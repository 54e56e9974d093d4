import Manuscript.Proofs.Report.Consistency
import Manuscript.Proofs.Yaml.ReadBack
import Manuscript.Proofs.Yaml.Tidy

/-!
# Reports Read Back

A report in YAML carries its data: reading the text gives the values of the
report again, every text character for character. A text may hold line breaks,
and it may start with blanks or end in spaces, since it is then written in a
style that keeps them.

Blanks are removed from the ends of lines after the text is printed, and this
is where data can be lost. The styles are chosen with spaces in mind, so only
spaces are sure to be kept inside. Where a line of a text ends in another blank,
such as a no-break space, a plain or literal scalar ends its line with it too,
and the blank is removed. Such texts are left out here.

The numbers in a report are those of footnotes, which are read back as numbers
as long as they fit in 64 bits.

## Main definitions

* `Draft.Document.marginalia`: A draft with texts of every style.

## Theorems

* `Report.numerals_data`: The numbers in a report.
* `Draft.Document.enumerate_yaml`: A report is read back from its text.
-/

namespace Manuscript

namespace Report

/-! ### Numbers in reports -/

theorem numerals_fieldIfAny (name : String) (text? : Option String) :
    (Data.fieldIfAny name (text?.map .text)).flatMap (fun field => field.2.numerals) = [] := by
  cases text? <;> rfl

theorem numerals_listField (name : String) (items : List Data) :
    (listField name items).flatMap (fun field => field.2.numerals) =
      Data.numeralsOfItems items := by
  cases items with
  | nil => rfl
  | cons item rest => exact List.append_nil _

theorem numerals_counts (counts : List Nat) :
    Data.numeralsOfItems (counts.map .count) = counts.map toString := by
  rw [Data.numeralsOfItems_eq, List.flatMap_map, List.map_eq_flatMap]
  rfl

mutual

theorem numerals_outlineData : ∀ e : OutlineEntry,
    (outlineData e).numerals = (e.preOrder.flatMap (·.footnotes)).map toString
  | ⟨element, number, title, id?, footnotes, children⟩ => by
      rw [outlineData, Data.numerals, Data.numeralsOfFields_eq, List.flatMap_append,
        List.flatMap_append, List.flatMap_append, numerals_fieldIfAny, numerals_listField,
        numerals_listField, numerals_counts, numerals_outlineItems children,
        OutlineEntry.preOrder]
      exact List.map_append.symm

theorem numerals_outlineItems : ∀ entries : List OutlineEntry,
    Data.numeralsOfItems (outlineItems entries) =
      ((OutlineEntry.preOrderAll entries).flatMap (·.footnotes)).map toString
  | [] => rfl
  | e :: rest => by
      rw [outlineItems, Data.numeralsOfItems, numerals_outlineData e, numerals_outlineItems rest,
        OutlineEntry.preOrderAll, List.flatMap_append, List.map_append]

end

/-- The numbers in a report are those of footnotes, in the outline and in their table. -/
theorem numerals_data (r : Report) : r.data.numerals =
    (r.entries.flatMap (·.footnotes) ++ r.footnotes.map (·.number)).map toString := by
  have hidentifiers : Data.numeralsOfItems (r.identifiers.map identifierData) = [] := by
    rw [Data.numeralsOfItems_eq, List.flatMap_map]
    exact List.flatMap_eq_nil_iff.mpr fun _ _ => rfl
  have hfootnotes : Data.numeralsOfItems (r.footnotes.map footnoteData) =
      (r.footnotes.map (·.number)).map toString := by
    rw [Data.numeralsOfItems_eq, List.flatMap_map, List.map_map, List.map_eq_flatMap]
    rfl
  have hitem (e : FormalItemEntry) : (formalItemData e).numerals = [] := by
    rw [formalItemData, Data.numerals, Data.numeralsOfFields_eq, List.flatMap_append,
      numerals_fieldIfAny]
    rfl
  have hkinds : Data.numeralsOfFields (r.formalItems.map kindField) = [] := by
    rw [Data.numeralsOfFields_eq, List.flatMap_map]
    refine List.flatMap_eq_nil_iff.mpr fun group _ => ?_
    rw [kindField, Data.numerals, Data.numeralsOfItems_eq, List.flatMap_map]
    exact List.flatMap_eq_nil_iff.mpr fun e _ => hitem e
  rw [data, Data.numerals, Data.numeralsOfFields_eq, List.flatMap_append, List.flatMap_append,
    numerals_fieldIfAny, List.map_append, entries, ← OutlineEntry.preOrderAll_eq,
    ← numerals_outlineItems, ← hfootnotes]
  simp [Data.numerals, hidentifiers, hkinds]

end Report

namespace Draft

variable {d : Document} {doc : Manuscript.Document}

theorem Document.isNumber_of_mem_numerals (h : d.enumerate = .ok doc)
    (hcount : doc.footnotes.length ≤ Nat.pow 2 64) {n : String}
    (hn : n ∈ (Report.ofDocument doc).data.numerals) : Yaml.IsNumber n := by
  have htable : (Report.ofDocument doc).footnotes.map (·.number) =
      List.range doc.footnotes.length := by
    simpa [Report.ofDocument, Function.comp_def] using numbers_eq_range h
  rw [Report.numerals_data, Report.flatMap_footnotes_entries, flatMap_footnotes h,
    numbers_eq_range h, htable] at hn
  rcases List.mem_map.mp hn with ⟨k, hk, rfl⟩
  have hless : k < doc.footnotes.length := by
    rcases List.mem_append.mp hk with hk | hk <;> exact List.mem_range.mp hk
  exact Yaml.isNumber_toString (Nat.lt_of_lt_of_le hless hcount)

/-- The report of a numbered draft is read back from its text, unless a line of a text in it ends in
    a blank other than a space. Nothing is removed from the ends of its lines then. -/
theorem Document.enumerate_yaml (h : d.enumerate = .ok doc)
    (hcount : doc.footnotes.length ≤ Nat.pow 2 64)
    (htexts : ∀ s ∈ (Report.ofDocument doc).data.texts, Text.EndsInSpaces s.toList) :
    (Report.ofDocument doc).yaml =
        String.ofList ("---\n".toList ++ Yaml.print (Report.ofDocument doc).data) ∧
      (Yaml.Tree.read? (Report.ofDocument doc).yaml).bind Yaml.Tree.data? =
        some (Report.ofDocument doc).data := by
  have hnumbers : ∀ n ∈ (Report.ofDocument doc).data.numerals, Yaml.IsNumber n :=
    fun n hn => isNumber_of_mem_numerals h hcount hn
  have hyaml : (Report.ofDocument doc).yaml =
      String.ofList ("---\n".toList ++ Yaml.print (Report.ofDocument doc).data) := by
    rw [Report.yaml, Yaml.trimLines_print htexts fun n hn => (hnumbers n hn).toIsNumeral]
  refine ⟨hyaml, ?_⟩
  rw [hyaml]
  exact Yaml.read?_print (List.cons_ne_nil _ _) hnumbers

/-- A draft whose titles are written in every style. They have blanks at their ends, line breaks and
    line feeds at the end, and look like numbers or the null value. -/
def Document.marginalia : Document :=
  ⟨" Marginalia ", false, some "null", .sections [
    ⟨"First line\n  second ", none, none, false, .content [
      .formalItem ⟨"007\n\n", "a: b", none, none, .verbatim ⟨"", none⟩⟩,
      .paragraph ⟨some "no\u00a0break", none,
        [.inline (.footnote ⟨(), [.text "\u3000above"]⟩)]⟩]⟩]⟩

theorem Document.enumerate_marginalia_yaml : ∃ doc, marginalia.enumerate = .ok doc ∧
    doc.footnotes.length ≤ Nat.pow 2 64 ∧
      (∀ s ∈ (Report.ofDocument doc).data.texts, Text.EndsInSpaces s.toList) ∧
        (Report.ofDocument doc).yaml =
          String.ofList ("---\n".toList ++ Yaml.print (Report.ofDocument doc).data) ∧
        (Yaml.Tree.read? (Report.ofDocument doc).yaml).bind Yaml.Tree.data? =
          some (Report.ofDocument doc).data := by
  have hreport : (marginalia.enumerate.toOption.map fun doc =>
      (doc.footnotes.length, (Report.ofDocument doc).data.texts)) =
        some (1, [" Marginalia ", "null", "section", "1", "First line\n  second ", "no\u00a0break",
          "paragraph", "1.1", "above", "1.1", "007\n\n"]) := by
    decide +kernel
  have hok : marginalia.enumerate.isOk = true := by decide +kernel
  rcases exists_of_isOk hok with ⟨doc, h⟩
  rw [h] at hreport
  rcases Prod.mk.inj (Option.some.inj hreport) with ⟨hlength, htexts⟩
  have hcount : doc.footnotes.length ≤ Nat.pow 2 64 := by
    rw [hlength]
    decide
  have hends : ∀ s ∈ (Report.ofDocument doc).data.texts, Text.EndsInSpaces s.toList := by
    rw [htexts]
    decide +kernel
  exact ⟨doc, h, hcount, hends, enumerate_yaml h hcount hends⟩

/-- A no-break space at the end of a title does not come back. -/
example :
    let d : Document := ⟨"a\u00a0", false, none, .sections [⟨"S", none, none, false, .content [
      .paragraph ⟨none, none, [.inline (.text "x")]⟩]⟩]⟩
    ((d.enumerate.toOption.bind fun doc =>
      (Yaml.Tree.read? (Report.ofDocument doc).yaml).bind Yaml.Tree.data?).bind
        (Data.field? "title")) matches some (.text "a") := by
  decide +kernel

end Draft

end Manuscript
