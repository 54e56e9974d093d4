import Manuscript.Draft.Format
import Manuscript.Proofs.Yaml.Orderly

/-!
# Drafts Written Otherwise

The same draft may be written in many ways, and a reader does not see the
difference: records may have their entries in another order, further entries
that no record asks for, and null for what is optional and not there. This holds
of all records of the format, however deep they stand in a document, and for
what references stand for.

One thing can be seen. How many references may be followed depends on the size
of the document, and entries that are passed over add to the size. So a document
that is read may be refused without them. What is read is the same in any case,
or the failure is that one.

## Main definitions

* `Draft.Format.IsRecord`: The schemas of the records of the format.

## Theorems

* `Draft.Format.IsRecord.wellNamed`: No record has two fields of one name.
* `Draft.Format.readTree_varies`: Variations of a document are read as the same value.
* `Draft.Format.readTree_echoes`: An entry that is passed over may be needed for its size.
-/

namespace Manuscript

namespace Draft

namespace Format

open Yaml Yaml.Reader

/-! ### Names of fields -/

theorem wellNamed_term : term.WellNamed := ⟨by decide, trivial, trivial, trivial⟩

theorem wellNamed_image : image.WellNamed :=
  ⟨by decide, trivial, trivial, trivial, trivial, trivial, trivial⟩

theorem wellNamed_verbatim : verbatim.WellNamed := ⟨by decide, trivial, trivial, trivial⟩

theorem wellNamed_linkOf (name : String) (reach : LinkReach) : (linkOf name reach).WellNamed :=
  ⟨by decide, trivial, ⟨trivial, wellNamed_image, trivial⟩, trivial⟩

theorem wellNamed_listing : listing.WellNamed := ⟨by decide, trivial, trivial⟩

theorem wellNamed_listItem {inner : Schema (Inline Unit)} (h : inner.WellNamed) :
    (listItem inner).WellNamed :=
  ⟨show ["type", "content"].Nodup by decide, trivial, h, trivial⟩

theorem wellNamed_itemList {inner : Schema (Inline Unit)} (h : inner.WellNamed)
    (style : ListStyle) : (itemList inner style).WellNamed :=
  ⟨show ["type", "items"].Nodup by decide, trivial, wellNamed_listItem h, trivial⟩

theorem wellNamed_footnote {inner : Schema (Inline Unit)} (h : inner.WellNamed) :
    (footnote inner).WellNamed :=
  ⟨show ["content"].Nodup by decide, h, trivial⟩

theorem wellNamed_inlineTo : ∀ depth : Nat, (inlineTo depth).WellNamed
  | 0 => trivial
  | depth + 1 =>
    have h := wellNamed_inlineTo depth
    ⟨trivial, wellNamed_term, wellNamed_linkOf _ _, wellNamed_linkOf _ _, wellNamed_image,
      wellNamed_itemList h _, wellNamed_itemList h _, wellNamed_footnote h, wellNamed_verbatim,
      trivial⟩

theorem wellNamed_inline : inline.WellNamed := wellNamed_inlineTo 128

theorem wellNamed_tableHead : tableHead.WellNamed := ⟨by decide, trivial, trivial⟩

theorem wellNamed_cell : cell.WellNamed := ⟨by decide, wellNamed_inline, trivial⟩

theorem wellNamed_row : row.WellNamed := ⟨by decide, wellNamed_cell, trivial⟩

theorem wellNamed_table : table.WellNamed :=
  ⟨by decide, trivial, wellNamed_tableHead, wellNamed_row, trivial⟩

theorem wellNamed_paragraphItem : paragraphItem.WellNamed :=
  ⟨trivial, wellNamed_term, wellNamed_linkOf _ _, wellNamed_linkOf _ _, wellNamed_image,
    wellNamed_itemList wellNamed_inline _, wellNamed_itemList wellNamed_inline _, wellNamed_table,
    wellNamed_footnote wellNamed_inline, wellNamed_verbatim, wellNamed_listing, trivial⟩

theorem wellNamed_formalContent : formalContent.WellNamed :=
  ⟨wellNamed_listing, wellNamed_image, wellNamed_itemList wellNamed_inline _,
    wellNamed_itemList wellNamed_inline _, wellNamed_table, wellNamed_verbatim, trivial⟩

theorem wellNamed_paragraph : paragraph.WellNamed :=
  ⟨by decide, trivial, trivial, wellNamed_paragraphItem, trivial⟩

theorem wellNamed_formalItem : formalItem.WellNamed :=
  ⟨by decide, trivial, trivial, trivial, trivial, wellNamed_formalContent, trivial⟩

theorem wellNamed_block : block.WellNamed := ⟨wellNamed_paragraph, wellNamed_formalItem, trivial⟩

theorem wellNamed_subsect : subsect.WellNamed :=
  ⟨by decide, trivial, trivial, trivial, wellNamed_block, trivial⟩

theorem wellNamed_sect : sect.WellNamed :=
  ⟨by decide, trivial, trivial, trivial, trivial, wellNamed_block, wellNamed_subsect, trivial⟩

theorem wellNamed_part : part.WellNamed :=
  ⟨by decide, trivial, trivial, trivial, trivial, wellNamed_sect, trivial⟩

theorem wellNamed_document : document.WellNamed :=
  ⟨by decide, trivial, trivial, trivial, wellNamed_part, wellNamed_sect, trivial⟩

/-- The schemas of the records of the format, from drafts down to the cells of tables. -/
inductive IsRecord : {α : Type} → Schema α → Prop where
  | document : IsRecord document
  | part : IsRecord part
  | sect : IsRecord sect
  | subsect : IsRecord subsect
  | paragraph : IsRecord paragraph
  | formalItem : IsRecord formalItem
  | term : IsRecord term
  | image : IsRecord image
  | verbatim : IsRecord verbatim
  | link : IsRecord link
  | linkExternal : IsRecord linkExternal
  | listing : IsRecord listing
  | itemList (style : ListStyle) : IsRecord (itemList inline style)
  | listItem : IsRecord (listItem inline)
  | footnote : IsRecord (footnote inline)
  | table : IsRecord table
  | tableHead : IsRecord tableHead
  | row : IsRecord row
  | cell : IsRecord cell

theorem IsRecord.wellNamed {α : Type} {s : Schema α} (h : IsRecord s) : s.WellNamed := by
  cases h with
  | document => exact wellNamed_document
  | part => exact wellNamed_part
  | sect => exact wellNamed_sect
  | subsect => exact wellNamed_subsect
  | paragraph => exact wellNamed_paragraph
  | formalItem => exact wellNamed_formalItem
  | term => exact wellNamed_term
  | image => exact wellNamed_image
  | verbatim => exact wellNamed_verbatim
  | link => exact wellNamed_linkOf _ _
  | linkExternal => exact wellNamed_linkOf _ _
  | listing => exact wellNamed_listing
  | itemList style => exact wellNamed_itemList wellNamed_inline style
  | listItem => exact wellNamed_listItem wellNamed_inline
  | footnote => exact wellNamed_footnote wellNamed_inline
  | table => exact wellNamed_table
  | tableHead => exact wellNamed_tableHead
  | row => exact wellNamed_row
  | cell => exact wellNamed_cell

/-! ### Documents -/

/-- A document that is read as a value is read as the same value in any of its variations, unless
    more references are followed than the size of the variation allows. That cannot be where the
    variation is not smaller, and not where there are no anchors. -/
theorem readTree_varies {α : Type} {s : Schema α} (hs : IsRecord s) {t t' : Tree} {a : α}
    (h : s.VariesTree t t') (hread : s.readTree t = .ok a) : ∃ followed,
      s.readCounting t = .ok (a, followed) ∧
        s.readTree t' = (if followed ≤ 100 * t'.size then .ok a else .error .tooRepetitive) ∧
        (t.size ≤ t'.size → s.readTree t' = .ok a) ∧
        (t.targets = [] → s.readTree t' = .ok a) := by
  rcases h.readTree hs.wellNamed hread with ⟨followed, hcount, hlimit, hnone, hvaried⟩
  refine ⟨followed, hcount, hvaried, fun hsize => ?_, fun htargets => ?_⟩
  · rw [hvaried, if_pos (by omega)]
  · rw [hvaried, hnone htargets, if_pos (Nat.zero_le _)]

/-! ### Two ways to write a document -/

mutual

/-- What a node adds to the size of a document. -/
def extent : Node → Nat
  | .scalar .. => 1
  | .sequence _ items => extentOfItems items + 2
  | .mapping _ entries => extentOfEntries entries + 2
  | .alias _ => 1

def extentOfItems : List Node → Nat
  | [] => 0
  | n :: rest => extent n + extentOfItems rest

def extentOfEntries : List (Node × Node) → Nat
  | [] => 0
  | entry :: rest => extentOfEntry entry + extentOfEntries rest

def extentOfEntry : Node × Node → Nat
  | (key, value) => extent key + extent value

end

/-- A document with the size that its root has. Nodes with anchors stand in the root. -/
def anchored (root : Node) (targets : List Node) : Tree := ⟨some root, targets, extent root⟩

/-- The fields of a paragraph. -/
def closing : Node :=
  .record [("id", .text "p"), ("content", .list [.record [("text", .text "Stop.")]])]

/-- The same fields in another order, with a null and with an entry that is passed over. -/
def closingVaried : Node :=
  .record [("lang", .list [.text "en"]), ("type", .plain "~"),
    ("content", .list [.record [("text", .text "Stop.")]]), ("id", .text "p")]

/-- A section, with a null. -/
def ending : Node :=
  .record [("title", .text "Ends"), ("id", .plain "null"),
    ("content", .list [.record [("paragraph", closing)]])]

/-- The same section in another order, with a null elsewhere. -/
def endingVaried : Node :=
  .record [("content", .list [.record [("paragraph", closingVaried)]]),
    ("subsections", .plain ""), ("title", .text "Ends")]

/-- A document that has the same section twice. -/
def means : Tree :=
  anchored (.record [("title", .text "Means"), ("sections", .list [ending, .alias 0])]) [ending]

/-- The same document with two nulls, and with an entry that is passed over. -/
def meansVaried : Tree :=
  anchored (.record [("parts", .plain "NULL"), ("sections", .list [endingVaried, .alias 0]),
    ("x", .record [("title", .alias 0)]), ("title", .text "Means"), ("style", .plain "")])
      [endingVaried]

section Means

variable {targets targets' : Array Node}

theorem varies_text (inside : Node → Node → Prop) (s : String) :
    Node.Varies targets targets' inside (.text s) (.text s) :=
  .node (.scalar none .doubleQuoted s)

theorem named_text (name : String) : Node.Named targets targets' name (.text name) (.text name) :=
  .scalar none .doubleQuoted

theorem absent_plain {word : String} (h : word ∈ nullWords) : Absent [.plain word] :=
  .inr ⟨.plain word, rfl, word, h, rfl⟩

theorem varies_closing : paragraph.Varies targets targets' closing closingVaried := by
  have hitem : paragraphItem.Varies targets targets' (.record [("text", .text "Stop.")])
      (.record [("text", .text "Stop.")]) :=
    .node (.collection (.mapping none (named_text "text") (varies_text _ "Stop.")))
  have hclosing : paragraph.Varies targets targets' closing closing :=
    .node (.collection (.mapping none (by decide) (by decide) ⟨.given (varies_text _ "p"), .missing,
      .given (.node (.collection (.sequence none (.cons hitem .nil)))), trivial⟩))
  rcases Schema.varies_record_iff.mp hclosing with ⟨-, hkeys, -, hfields⟩
  -- The entries are swapped, then a null is put before them and then an entry that is no field's.
  have hswapped := hfields.permute (.refl _) (.swap _ _ [])
  refine Schema.varies_record_iff.mpr ⟨rfl, hkeys, by decide,
    (Fields.Agrees.unknown_iff (by decide) none .doubleQuoted (.list [.text "en"])).mpr ?_⟩
  exact hswapped.absent "type" (by decide) rfl (.inl rfl) (absent_plain (by decide))
    (fun _ _ _ => rfl) fun field _ hne => valuesOf_other hne.symm none .doubleQuoted (.plain "~") _

theorem same_ending : Node.Same (sect.Inside targets targets') ending endingVaried := by
  have hblock : block.Varies targets targets' (.record [("paragraph", closing)])
      (.record [("paragraph", closingVaried)]) :=
    .node (.collection (.mapping none (named_text "paragraph") varies_closing))
  exact .collection (.mapping none (by decide) (by decide)
    ⟨.given (varies_text _ "Ends"), .absent rfl (absent_plain (by decide)) (.inl rfl), .missing,
      .missing, .given (.node (.collection (.sequence none (.cons hblock .nil)))),
      .absent rfl (.inl rfl) (absent_plain (by decide)), trivial⟩)

end Means

theorem variesTree_means : document.VariesTree means meansVaried := by
  have hsections : Node.Varies #[ending] #[endingVaried]
      (Schema.Inside #[ending] #[endingVaried] (.optional (.list sect)))
      (.list [ending, .alias 0]) (.list [endingVaried, .alias 0]) :=
    .node (.collection (.sequence none
      (.cons (.node same_ending) (.cons (.reference rfl rfl same_ending) .nil))))
  exact .root rfl rfl (.node (.collection (.mapping none (by decide) (by decide)
    ⟨.given (varies_text _ "Means"), .missing, .absent rfl (.inl rfl) (absent_plain (by decide)),
      .absent rfl (.inl rfl) (absent_plain (by decide)), .given hsections, trivial⟩)))

theorem readTree_means_varies : IsRecord document ∧ document.VariesTree means meansVaried ∧
    ∃ d, document.readTree means = .ok d ∧ ∃ followed,
      document.readCounting means = .ok (d, followed) ∧
      document.readTree meansVaried =
        (if followed ≤ 100 * meansVaried.size then .ok d else .error .tooRepetitive) ∧
      (means.size ≤ meansVaried.size → document.readTree meansVaried = .ok d) ∧
      (means.targets = [] → document.readTree meansVaried = .ok d) := by
  have hok : (document.readTree means).isOk = true := by decide +kernel
  cases hread : document.readTree means with
  | error e => rw [hread] at hok; cases hok
  | ok d =>
      exact ⟨.document, variesTree_means, d, rfl, readTree_varies .document variesTree_means hread⟩

/-! ### Too many echoes -/

/-- A node and then five references to it. -/
def echo (n : Node) (slot : Nat) : Node := .list (n :: List.replicate 5 (.alias slot))

def echoCell : Node := .record []

def echoRow : Node := .record [("cells", echo echoCell 4)]

def echoTable : Node :=
  .record [("table", .record [("summary", .text "s"), ("body", echo echoRow 3)])]

def echoParagraph : Node := .record [("paragraph", .record [("content", echo echoTable 2)])]

def echoSection : Node := .record [("title", .text "s"), ("content", echo echoParagraph 1)]

/-- A document in which sections, paragraphs, tables, rows and cells are all given six times, with
    an entry before the others that is passed over if it is there. -/
def echoes (more : List (String × Node)) : Tree :=
  anchored (.record (more ++ [("title", .text "t"), ("sections", echo echoSection 0)]))
    [echoSection, echoParagraph, echoTable, echoRow, echoCell]

/-- Thirty words. -/
def filler : Node := .list (List.replicate 30 (.text "a"))

/-- What the references in the document stand for. -/
def echoTargets : Array Node := #[echoSection, echoParagraph, echoTable, echoRow, echoCell]

section Echoes

-- Each level takes the references of the level below six times, and five more for its own.
variable (depth : Nat)

theorem yields_text (s : String) :
    Yields echoTargets (fun refs => Schema.text.read refs depth (.text s)) 0 s := yields_pure s

theorem yields_end {entries : List (Node × Node)} (hkeys : ScalarKeys entries) :
    Fields.nil.Yields echoTargets depth entries 0 () := Fields.yields_nil depth hkeys

theorem exists_yields_echoRow : ∃ r : Row Unit,
    Yields echoTargets (fun refs => row.read refs (depth + 3) echoRow) 5 r := by
  have hcell : Yields echoTargets (fun refs => cell.read refs (depth + 1) echoCell) 0 [] :=
    Schema.yields_mapping_iff.mpr ⟨_, _, rfl, Fields.yields_cons (by decide) (by decide) .missing
      (yields_end _ (by decide)), rfl⟩
  have hcells := Schema.yields_echo 4 rfl (fun _ => rfl) hcell 5
  exact ⟨_, Schema.yields_mapping_iff.mpr ⟨_, _, rfl,
    Fields.yields_cons (by decide) (by decide) (.given hcells) (yields_end _ (by decide)), rfl⟩⟩

theorem exists_yields_echoTable : ∃ item : ParagraphItem Unit,
    Yields echoTargets (fun refs => paragraphItem.read refs (depth + 6) echoTable) 35 item := by
  rcases exists_yields_echoRow depth with ⟨r, hrow⟩
  have hrows := Schema.yields_echo 3 rfl (fun _ => rfl) hrow 5
  exact ⟨_, (Schema.yields_variant (fun _ => rfl) (Schema.yields_mapping_iff.mpr ⟨_, _, rfl,
    Fields.yields_cons (by decide) (by decide) (.given (yields_text _ "s")) <|
      Fields.yields_cons (by decide) (by decide) .missing <|
      Fields.yields_cons (by decide) (by decide) (.given hrows) <|
      yields_end _ (by decide), rfl⟩)).congr_count rfl⟩

theorem exists_yields_echoParagraph : ∃ b : Block,
    Yields echoTargets (fun refs => block.read refs (depth + 9) echoParagraph) 215 b := by
  rcases exists_yields_echoTable depth with ⟨item, htable⟩
  have htables := Schema.yields_echo 2 rfl (fun _ => rfl) htable 5
  exact ⟨_, (Schema.yields_variant (fun _ => rfl) (Schema.yields_mapping_iff.mpr ⟨_, _, rfl,
    Fields.yields_cons (by decide) (by decide) .missing <|
      Fields.yields_cons (by decide) (by decide) .missing <|
      Fields.yields_cons (by decide) (by decide) (.given htables) <|
      yields_end _ (by decide), rfl⟩)).congr_count rfl⟩

theorem exists_yields_echoSection : ∃ s : Section,
    Yields echoTargets (fun refs => sect.read refs (depth + 11) echoSection) 1295 s := by
  rcases exists_yields_echoParagraph depth with ⟨b, hparagraph⟩
  have hparagraphs := (Schema.yields_present_iff (fun _ => rfl) rfl).mpr
    ⟨_, rfl, Schema.yields_echo 1 rfl (fun _ => rfl) hparagraph 5⟩
  exact ⟨_, (Schema.yields_mapping_iff.mpr ⟨_, _, rfl,
    Fields.yields_cons (by decide) (by decide) (.given (yields_text _ "s")) <|
      Fields.yields_cons (by decide) (by decide) .missing <|
      Fields.yields_cons (by decide) (by decide) .missing <|
      Fields.yields_cons (by decide) (by decide) .missing <|
      Fields.yields_cons (by decide) (by decide) (.given hparagraphs) <|
      Fields.yields_cons (by decide) (by decide) .missing <|
      yields_end _ (by decide), rfl⟩).congr_count rfl⟩

end Echoes

theorem exists_yields_echoes : ∃ d : Document, Yields echoTargets (fun refs =>
    document.readRoot (echoes [("x", filler)]) refs) 7775 d := by
  rcases exists_yields_echoSection 115 with ⟨s, hsection⟩
  have hsections := (Schema.yields_present_iff (fun _ => rfl) rfl).mpr
    ⟨_, rfl, Schema.yields_echo 0 rfl (fun _ => rfl) hsection 5⟩
  exact ⟨_, (Schema.yields_mapping_iff.mpr ⟨_, _, rfl,
    Fields.yields_cons (by decide) (by decide) (.given (yields_text _ "t")) <|
      Fields.yields_cons (by decide) (by decide) .missing <|
      Fields.yields_cons (by decide) (by decide) .missing <|
      Fields.yields_cons (by decide) (by decide) .missing <|
      Fields.yields_cons (by decide) (by decide) (.given hsections) <|
      yields_end _ (by decide), rfl⟩).congr_count rfl⟩

/-- The entry can be left out of a document that varies from itself. -/
theorem varies_echoes {d : Document} (h : document.readTree (echoes [("x", filler)]) = .ok d) :
    document.VariesTree (echoes [("x", filler)]) (echoes []) := by
  have horder : document.inOrderTree (echoes [("x", filler)]) = true := by decide +kernel
  cases Schema.variesTree_self wellNamed_document horder h with
  | root hroot hroot' hn =>
      cases hroot
      cases hroot'
      rcases Schema.varies_record_iff.mp hn with ⟨-, hkeys, hkeys', hentries⟩
      have hentries' := (Fields.Agrees.unknown_iff (by decide) none .doubleQuoted filler).mp hentries
      exact .root rfl rfl (Schema.varies_record_iff.mpr
        ⟨rfl, hkeys, (List.forall_mem_cons.mp hkeys').2, hentries'⟩)
  | nothing hroot _ => cases hroot

/-- An entry that is passed over by the reader may be needed for its size. -/
theorem readTree_echoes :
    document.VariesTree (echoes [("x", filler)]) (echoes []) ∧
      (document.readTree (echoes [("x", filler)])).isOk = true ∧
      document.readTree (echoes []) = .error .tooRepetitive := by
  rcases exists_yields_echoes with ⟨d, hyields⟩
  have hcount : document.readCounting (echoes [("x", filler)]) = .ok (d, 7775) :=
    hyields (100 * (echoes [("x", filler)]).size) 0 (Nat.zero_le _)
  have hread : document.readTree (echoes [("x", filler)]) = .ok d := by
    rw [Schema.readTree_eq, hcount]
    rfl
  have hvaries := varies_echoes hread
  rcases hvaries.readTree wellNamed_document hread with ⟨followed, hrun, -, -, hvaried⟩
  rw [hcount] at hrun
  cases hrun
  refine ⟨hvaries, by rw [hread]; rfl, ?_⟩
  -- Without the entry, the size is 64.
  rw [hvaried, if_neg (by decide)]

end Format

end Draft

end Manuscript
