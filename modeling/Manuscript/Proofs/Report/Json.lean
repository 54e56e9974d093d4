import Manuscript.Proofs.Index.Kinds
import Manuscript.Proofs.Json.ReadBack
import Manuscript.Proofs.Number.Printed
import Manuscript.Proofs.Report.ReadBack
import Mathlib.Data.List.Forall2

/-!
# Reports in JSON

What a reader of the JSON text of a report finds in it, said by the names of
fields alone. `Report.Shown` says it of plain data in which fields are looked
up, so nothing about how a report is printed is needed to understand it. A
field that is missing stands for an identifier or a style that is not there,
or for a list that is empty, and there is no other way to show these.

Two reports that are shown by the same data are equal. So nothing of a report
is lost in its JSON text, whatever characters its texts have.

Looking up a field finds the first one of a name. Readers that keep the last
one find the same, since no name stands twice in a record: the kinds of formal
items, which may be any texts, are listed in a strict order.

## Main definitions

* `Data.Distinct`: No name stands twice in a record.
* `OutlineEntry.Shown`: An outline entry is shown by plain data.
* `Report.Shown`: A report is shown by plain data.

## Theorems

* `Report.shown_data`: A report is shown by its data.
* `Report.Shown.unique`: No other report is.
* `Report.ofDocument_json`: The JSON text of a report carries the report.
-/

namespace Manuscript

namespace Data

/-! ### Names in records -/

mutual

/-- No name stands twice in a record. -/
def Distinct : Data → Prop
  | .list items => DistinctItems items
  | .record fields => (fields.map (·.1)).Nodup ∧ DistinctFields fields
  | _ => True

def DistinctItems : List Data → Prop
  | [] => True
  | item :: rest => item.Distinct ∧ DistinctItems rest

def DistinctFields : List (String × Data) → Prop
  | [] => True
  | (_, value) :: rest => value.Distinct ∧ DistinctFields rest

end

theorem distinctItems_iff {items : List Data} :
    DistinctItems items ↔ ∀ item ∈ items, item.Distinct := by
  induction items with
  | nil => exact ⟨fun _ _ h => absurd h List.not_mem_nil, fun _ => trivial⟩
  | cons item rest ih => rw [DistinctItems, ih, List.forall_mem_cons]

theorem distinctFields_iff {fields : List (String × Data)} :
    DistinctFields fields ↔ ∀ field ∈ fields, field.2.Distinct := by
  induction fields with
  | nil => exact ⟨fun _ _ h => absurd h List.not_mem_nil, fun _ => trivial⟩
  | cons field rest ih => rw [DistinctFields, ih, List.forall_mem_cons]

/-- A list that is shown only if it holds something. -/
def listIfAny (items : List Data) : Option Data :=
  if items.isEmpty then none else some (.list items)

theorem listIfAny_inj {items others : List Data} (h : listIfAny items = listIfAny others) :
    items = others := by
  cases items with
  | nil =>
      cases others with
      | nil => rfl
      | cons _ _ => cases h
  | cons _ _ =>
      cases others with
      | nil => cases h
      | cons _ _ =>
          cases h
          rfl

theorem map_text_inj {s t : Option String} (h : s.map Data.text = t.map Data.text) : s = t :=
  Option.map_injective (fun _ _ h => Data.text.inj h) h

theorem count_inj {m n : Nat} (h : count m = count n) : m = n :=
  toDigits_inj (String.ofList_injective (Data.number.inj h))

end Data

/-! ### What is shown -/

theorem ElementClass.name_inj {c k : ElementClass} (h : c.name = k.name) : c = k :=
  (name_append_inj (congrArg (· ++ " " ++ "") h)).1

/-- The entry is shown by a record. Its identifier is left out if there is none, and so is a list
    that is empty. -/
inductive OutlineEntry.Shown : Data → OutlineEntry → Prop where
  | record {v : Data} {items : List Data} {e : OutlineEntry}
      (element : v.field? "element" = some (.text e.element.name))
      (number : v.field? "number" = some (.text e.number))
      (title : v.field? "title" = some (.text e.title))
      (id : v.field? "id" = e.id?.map .text)
      (footnotes : v.field? "footnotes" = Data.listIfAny (e.footnotes.map .count))
      (children : v.field? "children" = Data.listIfAny items)
      (inner : List.Forall₂ OutlineEntry.Shown items e.children) : OutlineEntry.Shown v e

/-- The identifier is shown by a record. -/
structure IdentifierEntry.Shown (v : Data) (e : IdentifierEntry) : Prop where
  id : v.field? "id" = some (.text e.id)
  element : v.field? "element" = some (.text e.element.name)
  number : v.field? "number" = some (.text e.number)

/-- The footnote is shown by a record. -/
structure FootnoteEntry.Shown (v : Data) (e : FootnoteEntry) : Prop where
  number : v.field? "number" = some (.count e.number)
  text : v.field? "text" = some (.text e.text)

/-- The formal item is shown by a record, in which an identifier is left out if there is none. -/
structure FormalItemEntry.Shown (v : Data) (e : FormalItemEntry) : Prop where
  number : v.field? "number" = some (.text e.number)
  title : v.field? "title" = some (.text e.title)
  id : v.field? "id" = e.id?.map .text

namespace Report

/-- The items of a kind are shown by a field that has the name of the kind. -/
def KindShown (field : String × Data) (group : String × List FormalItemEntry) : Prop :=
  field.1 = group.1 ∧
    ∃ items, field.2 = .list items ∧ List.Forall₂ FormalItemEntry.Shown items group.2

/-- The report is shown by a record, in which the style is left out if there is none. -/
structure Shown (v : Data) (r : Report) : Prop where
  title : v.field? "title" = some (.text r.title)
  contents : v.field? "contents" = some (.flag r.tableOfContents)
  style : v.field? "style" = r.style?.map .text
  outline : ∃ items, v.field? "outline" = some (.list items) ∧
    List.Forall₂ OutlineEntry.Shown items r.outline
  identifiers : ∃ items, v.field? "identifiers" = some (.list items) ∧
    List.Forall₂ IdentifierEntry.Shown items r.identifiers
  footnotes : ∃ items, v.field? "footnotes" = some (.list items) ∧
    List.Forall₂ FootnoteEntry.Shown items r.footnotes
  formalItems : ∃ fields, v.field? "formal_items" = some (.record fields) ∧
    List.Forall₂ KindShown fields r.formalItems

end Report

/-! ### One report only -/

mutual

theorem OutlineEntry.Shown.unique : ∀ (e f : OutlineEntry) {v : Data},
    e.Shown v → f.Shown v → e = f
  | ⟨element, number, title, id?, footnotes, children⟩, ⟨_, _, _, _, _, others⟩, v,
      .record helement hnumber htitle hid hfootnotes hchildren hinner,
      .record helement' hnumber' htitle' hid' hfootnotes' hchildren' hinner' => by
      cases ElementClass.name_inj (Data.text.inj (Option.some.inj (helement.symm.trans helement')))
      cases Option.some.inj (hnumber.symm.trans hnumber')
      cases Option.some.inj (htitle.symm.trans htitle')
      cases Data.map_text_inj (hid.symm.trans hid')
      -- A missing list is an empty one, so the children are those of the same items.
      cases Data.listIfAny_inj (hchildren.symm.trans hchildren')
      have hnumbers := Data.listIfAny_inj (hfootnotes.symm.trans hfootnotes')
      cases List.map_injective_iff.mpr (fun _ _ => Data.count_inj) hnumbers
      cases OutlineEntry.Shown.unique_forall₂ children others hinner hinner'
      rfl

theorem OutlineEntry.Shown.unique_forall₂ : ∀ (entries others : List OutlineEntry)
    {items : List Data}, List.Forall₂ OutlineEntry.Shown items entries →
      List.Forall₂ OutlineEntry.Shown items others → entries = others
  | [], _, _, .nil, .nil => rfl
  | e :: rest, _, _, .cons he hrest, .cons hf hothers => by
      rw [OutlineEntry.Shown.unique e _ he hf,
        OutlineEntry.Shown.unique_forall₂ rest _ hrest hothers]

end

theorem IdentifierEntry.rightUnique_shown : Relator.RightUnique IdentifierEntry.Shown := by
  rintro v ⟨id, element, number⟩ ⟨_, _, _⟩ h h'
  cases Option.some.inj (h.id.symm.trans h'.id)
  cases Option.some.inj (h.number.symm.trans h'.number)
  cases ElementClass.name_inj (Data.text.inj (Option.some.inj (h.element.symm.trans h'.element)))
  rfl

theorem FootnoteEntry.rightUnique_shown : Relator.RightUnique FootnoteEntry.Shown := by
  rintro v ⟨number, text⟩ ⟨_, _⟩ h h'
  cases Data.count_inj (Option.some.inj (h.number.symm.trans h'.number))
  cases Option.some.inj (h.text.symm.trans h'.text)
  rfl

theorem FormalItemEntry.rightUnique_shown : Relator.RightUnique FormalItemEntry.Shown := by
  rintro v ⟨number, title, id?⟩ ⟨_, _, _⟩ h h'
  cases Option.some.inj (h.number.symm.trans h'.number)
  cases Option.some.inj (h.title.symm.trans h'.title)
  cases Data.map_text_inj (h.id.symm.trans h'.id)
  rfl

namespace Report

theorem rightUnique_kindShown : Relator.RightUnique KindShown := by
  rintro field ⟨kind, entries⟩ ⟨_, _⟩ ⟨hname, _, hitems, h⟩ ⟨hname', _, hitems', h'⟩
  cases Data.list.inj (hitems.symm.trans hitems')
  exact Prod.ext (hname.symm.trans hname') (FormalItemEntry.rightUnique_shown.forall₂ h h')

/-- No two reports are shown by the same data. -/
theorem Shown.unique {v : Data} {r s : Report} (hr : r.Shown v) (hs : s.Shown v) : r = s := by
  rcases hr.outline with ⟨_, houtline, hentries⟩
  rcases hs.outline with ⟨_, houtline', hentries'⟩
  cases Option.some.inj (houtline.symm.trans houtline')
  rcases hr.identifiers with ⟨_, hidentifiers, hids⟩
  rcases hs.identifiers with ⟨_, hidentifiers', hids'⟩
  cases Option.some.inj (hidentifiers.symm.trans hidentifiers')
  rcases hr.footnotes with ⟨_, hfootnotes, hnotes⟩
  rcases hs.footnotes with ⟨_, hfootnotes', hnotes'⟩
  cases Option.some.inj (hfootnotes.symm.trans hfootnotes')
  rcases hr.formalItems with ⟨_, hformals, hkinds⟩
  rcases hs.formalItems with ⟨_, hformals', hkinds'⟩
  cases Option.some.inj (hformals.symm.trans hformals')
  cases r
  cases s
  cases Option.some.inj (hr.title.symm.trans hs.title)
  cases Option.some.inj (hr.contents.symm.trans hs.contents)
  cases Data.map_text_inj (hr.style.symm.trans hs.style)
  cases OutlineEntry.Shown.unique_forall₂ _ _ hentries hentries'
  cases IdentifierEntry.rightUnique_shown.forall₂ hids hids'
  cases FootnoteEntry.rightUnique_shown.forall₂ hnotes hnotes'
  cases rightUnique_kindShown.forall₂ hkinds hkinds'
  rfl

/-! ### What the data of a report shows -/

mutual

theorem shown_outlineData : ∀ e : OutlineEntry, e.Shown (outlineData e)
  | ⟨element, number, title, id?, footnotes, children⟩ => by
      have hinner := shown_outlineItems children
      rw [outlineData]
      -- Every field that may be missing is there or not.
      cases id? <;> cases footnotes <;> cases hitems : outlineItems children <;>
        exact .record rfl rfl rfl rfl rfl (by rw [hitems]; rfl) hinner

theorem shown_outlineItems : ∀ entries : List OutlineEntry,
    List.Forall₂ OutlineEntry.Shown (outlineItems entries) entries
  | [] => .nil
  | e :: rest => .cons (shown_outlineData e) (shown_outlineItems rest)

end

theorem shown_formalItemData (e : FormalItemEntry) : e.Shown (formalItemData e) := by
  rcases e with ⟨number, title, _ | id⟩ <;> exact ⟨rfl, rfl, rfl⟩

theorem forall₂_map {α : Type} {shown : Data → α → Prop} {write : α → Data}
    (h : ∀ e, shown (write e) e) (entries : List α) :
    List.Forall₂ shown (entries.map write) entries :=
  List.forall₂_map_left_iff.mpr (List.forall₂_same.mpr fun e _ => h e)

theorem kindShown_kindField (group : String × List FormalItemEntry) :
    KindShown (kindField group) group :=
  ⟨rfl, _, rfl, forall₂_map shown_formalItemData group.2⟩

/-- A report is shown by its data. -/
theorem shown_data (r : Report) : r.Shown r.data := by
  have houtline := shown_outlineItems r.outline
  have hidentifiers : List.Forall₂ IdentifierEntry.Shown (r.identifiers.map identifierData)
      r.identifiers := forall₂_map (fun e => ⟨rfl, rfl, rfl⟩) r.identifiers
  have hfootnotes : List.Forall₂ FootnoteEntry.Shown (r.footnotes.map footnoteData) r.footnotes :=
    forall₂_map (fun e => ⟨rfl, rfl⟩) r.footnotes
  have hformals : List.Forall₂ KindShown (r.formalItems.map kindField) r.formalItems :=
    List.forall₂_map_left_iff.mpr (List.forall₂_same.mpr fun g _ => kindShown_kindField g)
  rcases r with ⟨title, contents, _ | style, outline, identifiers, footnotes, formalItems⟩ <;>
    exact ⟨rfl, rfl, rfl, ⟨_, rfl, houtline⟩, ⟨_, rfl, hidentifiers⟩, ⟨_, rfl, hfootnotes⟩,
      ⟨_, rfl, hformals⟩⟩

/-! ### No name twice -/

theorem map_fst_fieldIfAny (name : String) (text? : Option String) :
    ((Data.fieldIfAny name (text?.map .text)).map (·.1)).Sublist [name] := by
  cases text? with
  | none => exact List.nil_sublist _
  | some s => exact List.Sublist.refl _

theorem map_fst_listField (name : String) (items : List Data) :
    ((listField name items).map (·.1)).Sublist [name] := by
  cases items with
  | nil => exact List.nil_sublist _
  | cons item rest => exact List.Sublist.refl _

theorem distinctFields_fieldIfAny (name : String) (text? : Option String) :
    ∀ field ∈ Data.fieldIfAny name (text?.map .text), field.2.Distinct := by
  intro field hfield
  cases text? with
  | none => exact absurd hfield List.not_mem_nil
  | some s =>
      rw [List.mem_singleton.mp hfield]
      trivial

theorem distinctFields_listField (name : String) {items : List Data}
    (h : ∀ item ∈ items, item.Distinct) : ∀ field ∈ listField name items, field.2.Distinct := by
  intro field hfield
  cases items with
  | nil => exact absurd hfield List.not_mem_nil
  | cons item rest =>
      rw [List.mem_singleton.mp hfield]
      exact Data.distinctItems_iff.mpr h

mutual

theorem distinct_outlineData : ∀ e : OutlineEntry, (outlineData e).Distinct
  | ⟨element, number, title, id?, footnotes, children⟩ => by
      have hcounts : ∀ v ∈ footnotes.map Data.count, v.Distinct :=
        List.forall_mem_map.mpr fun _ _ => trivial
      -- The names that are there are among six different ones.
      have hnames := (((List.Sublist.refl ["element", "number", "title"]).append
        (map_fst_fieldIfAny "id" id?)).append
          (map_fst_listField "footnotes" (footnotes.map .count))).append
            (map_fst_listField "children" (outlineItems children))
      rw [outlineData, Data.Distinct, Data.distinctFields_iff]
      simp only [List.map_append, List.forall_mem_append]
      refine ⟨hnames.nodup (by decide), ⟨⟨?_, distinctFields_fieldIfAny "id" id?⟩,
        distinctFields_listField "footnotes" hcounts⟩,
        distinctFields_listField "children" (distinct_outlineItems children)⟩
      simp [Data.Distinct]

theorem distinct_outlineItems : ∀ entries : List OutlineEntry,
    ∀ v ∈ outlineItems entries, v.Distinct
  | [] => fun _ h => absurd h List.not_mem_nil
  | e :: rest => List.forall_mem_cons.mpr ⟨distinct_outlineData e, distinct_outlineItems rest⟩

end

theorem distinct_formalItemData (e : FormalItemEntry) : (formalItemData e).Distinct := by
  have hnames := (List.Sublist.refl ["number", "title"]).append (map_fst_fieldIfAny "id" e.id?)
  rw [formalItemData, Data.Distinct, Data.distinctFields_iff]
  simp only [List.map_append, List.forall_mem_append]
  refine ⟨hnames.nodup (by decide), ?_, distinctFields_fieldIfAny "id" e.id?⟩
  simp [Data.Distinct]

theorem distinct_identifierData (e : IdentifierEntry) : (identifierData e).Distinct := by
  rw [identifierData, Data.Distinct, Data.distinctFields_iff]
  simp [Data.Distinct]

theorem distinct_footnoteData (e : FootnoteEntry) : (footnoteData e).Distinct := by
  rw [footnoteData, Data.Distinct, Data.distinctFields_iff]
  simp [Data.Distinct, Data.count]

theorem distinct_data {r : Report} (h : (r.formalItems.map (·.1)).Nodup) : r.data.Distinct := by
  have hnames := ((List.Sublist.refl ["title", "contents"]).append
    (map_fst_fieldIfAny "style" r.style?)).append
      (List.Sublist.refl ["outline", "identifiers", "footnotes", "formal_items"])
  have hkinds : (r.formalItems.map kindField).map (·.1) = r.formalItems.map (·.1) := by
    rw [List.map_map]
    rfl
  have hitems : ∀ group ∈ r.formalItems, (kindField group).2.Distinct := by
    intro group _
    rw [kindField, Data.Distinct, Data.distinctItems_iff, List.forall_mem_map]
    exact fun e _ => distinct_formalItemData e
  rw [data, Data.Distinct, Data.distinctFields_iff]
  simp only [List.map_append, List.forall_mem_append]
  refine ⟨hnames.nodup (by decide), ⟨?_, distinctFields_fieldIfAny "style" r.style?⟩, ?_⟩
  · simp [Data.Distinct]
  · simp only [List.forall_mem_cons, Data.Distinct, Data.distinctItems_iff,
      Data.distinctFields_iff, hkinds, List.forall_mem_map]
    exact ⟨distinct_outlineItems r.outline, fun e _ => distinct_identifierData e,
      fun e _ => distinct_footnoteData e, ⟨h, hitems⟩, by simp⟩

theorem nodup_kinds (d : Document) : ((ofDocument d).formalItems.map (·.1)).Nodup := by
  have hkinds : (ofDocument d).formalItems.map (·.1) = d.index.formalItems.kinds := by
    simp [ofDocument, Function.comp_def]
  rw [hkinds]
  refine d.index.formalItems.pairwise_kinds.imp ?_
  rintro a b hlt rfl
  exact absurd hlt (List.lt_irrefl _)

/-! ### The JSON text -/

theorem exists_toString_of_mem_numerals {r : Report} {n : String} (h : n ∈ r.data.numerals) :
    ∃ k : Nat, n = toString k := by
  rw [numerals_data] at h
  rcases List.mem_map.mp h with ⟨k, -, rfl⟩
  exact ⟨k, rfl⟩

/-- The JSON text of a report is one value and a new line. Read back, it is the data of the report,
    in which no name stands twice in a record, and this report is the only one that the data shows. -/
theorem ofDocument_json (d : Document) :
    (∃ value, (ofDocument d).json = value ++ "\n" ∧ Json.read? value = some (ofDocument d).data) ∧
      Json.read? (ofDocument d).json = some (ofDocument d).data ∧
      (ofDocument d).data.Distinct ∧ (∀ r : Report, r.Shown (ofDocument d).data ↔ r = ofDocument d) ∧
      ∀ e : Document, (ofDocument e).json = (ofDocument d).json → ofDocument e = ofDocument d := by
  have hread (e : Document) : Json.read? (ofDocument e).json = some (ofDocument e).data :=
    Json.read?_print (fun _ hn => exists_toString_of_mem_numerals hn) ['\n']
      (List.forall_mem_singleton.mpr rfl) (Json.apart_newline 0 [])
  have hshown (r : Report) : r.Shown (ofDocument d).data ↔ r = ofDocument d := by
    constructor
    · intro hr
      exact hr.unique (shown_data _)
    · rintro rfl
      exact shown_data _
  refine ⟨⟨String.ofList (Json.print 0 (ofDocument d).data), ?_, ?_⟩, hread d,
    distinct_data (nodup_kinds d), hshown, ?_⟩
  · rw [json, String.ofList_append]
  · rw [← List.append_nil (Json.print 0 _)]
    exact Json.read?_print (fun _ hn => exists_toString_of_mem_numerals hn) []
      (List.forall_mem_nil _) (fun _ hc => nomatch hc)
  · intro e he
    have hdata : (ofDocument e).data = (ofDocument d).data := by
      rw [← Option.some_inj, ← hread e, ← hread d, he]
    exact (hshown (ofDocument e)).mp (hdata ▸ shown_data (ofDocument e))

end Report

/-- A draft with quotes, backslashes, control characters and empty texts where a report shows them.
    The words of its paragraph are not shown. -/
def Draft.Document.inscription (words : String) : Document :=
  ⟨"\"A\\B\"\n", true, some "", .sections [
    ⟨"\u0007", some "", none, false, .content [
      .paragraph ⟨some "\\u0041", none,
        [.inline (.text words), .inline (.footnote ⟨(), [.text "\u0000\u00a0\""]⟩)]⟩,
      .formalItem ⟨"\",\n\"", "\u001f/", some "\t", none, .verbatim ⟨"", none⟩⟩]⟩]⟩

theorem Report.ofDocument_inscription_json : ∃ d e : Document,
    (Draft.Document.inscription "one").enumerate = .ok d ∧
      (Draft.Document.inscription "two").enumerate = .ok e ∧
        (ofDocument e).json = (ofDocument d).json ∧ ofDocument e = ofDocument d := by
  have hok : (Draft.Document.inscription "one").enumerate.isOk = true := by decide +kernel
  have hok' : (Draft.Document.inscription "two").enumerate.isOk = true := by decide +kernel
  rcases Draft.exists_of_isOk hok with ⟨d, h⟩
  rcases Draft.exists_of_isOk hok' with ⟨e, h'⟩
  -- Characters are compared here, since texts would be encoded first.
  have hprint : ((Draft.Document.inscription "two").enumerate.toOption.map
      fun e => Json.print 0 (ofDocument e).data) =
        (Draft.Document.inscription "one").enumerate.toOption.map
          fun d => Json.print 0 (ofDocument d).data := by
    decide +kernel
  rw [h, h'] at hprint
  have hsame : (ofDocument e).json = (ofDocument d).json :=
    congrArg (fun cs => String.ofList (cs ++ ['\n'])) (Option.some.inj hprint)
  exact ⟨d, e, h, h', hsame, (ofDocument_json d).2.2.2.2 e hsame⟩

end Manuscript
