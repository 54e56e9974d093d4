import Manuscript.Proofs.Command.Running
import Manuscript.Proofs.Index.Kinds
import Manuscript.Proofs.Report.Outline

/-!
# Listings and Reports

The listings of a document and its report are made from the document by
different ways. The outline is printed while the divisions are gone through, with
an indent that is handed down, and in the report it is a forest of entries. The
formal items are printed kind by kind, or for one kind that is looked up in the
index, and in the report all kinds are there.

Here the listings are written from the report alone. An entry has a line, and it
is indented by how deep the entry lies, so the outline is the lines of all
entries in pre-order with their depths.

## Main definitions

* `OutlineEntry.atDepths`: The entries of an outline in pre-order with their depths.
* `Report.line`: The line of an entry.

## Theorems

* `OutlineEntry.map_snd_atDepths`: The entries come in pre-order.
* `Document.outlineListing_eq`: The outline is printed as the report has it.
* `Document.formalItemListing_eq`: The formal items of one kind are as well.
* `Workspace.run_listings`: What the commands print of a document that was loaded.
-/

namespace Manuscript

/-! ### Entries with their depths -/

namespace OutlineEntry

mutual

/-- An entry that lies at a depth, and then the entries within it, each before those within it, with
    the depths at which they lie. -/
def atDepths (depth : Nat) : OutlineEntry → List (Nat × OutlineEntry)
  | ⟨element, number, title, id?, footnotes, children⟩ =>
    (depth, ⟨element, number, title, id?, footnotes, children⟩) :: allAtDepths (depth + 1) children

def allAtDepths (depth : Nat) : List OutlineEntry → List (Nat × OutlineEntry)
  | [] => []
  | e :: rest => e.atDepths depth ++ allAtDepths depth rest

end

mutual

/-- The entries come in pre-order. -/
theorem map_snd_atDepths (depth : Nat) : ∀ e : OutlineEntry,
    (e.atDepths depth).map Prod.snd = e.preOrder
  | ⟨element, number, title, id?, footnotes, children⟩ => by
      rw [atDepths, preOrder, List.map_cons, map_snd_allAtDepths (depth + 1) children]

theorem map_snd_allAtDepths (depth : Nat) : ∀ entries : List OutlineEntry,
    (allAtDepths depth entries).map Prod.snd = preOrderAll entries
  | [] => rfl
  | e :: rest => by
      rw [allAtDepths, preOrderAll, List.map_append, map_snd_atDepths depth e,
        map_snd_allAtDepths depth rest]

end

theorem allAtDepths_eq (depth : Nat) (entries : List OutlineEntry) :
    allAtDepths depth entries = entries.flatMap (atDepths depth) := by
  induction entries with
  | nil => rfl
  | cons e rest ih => rw [allAtDepths, ih, List.flatMap_cons]

theorem atDepths_eq (depth : Nat) (e : OutlineEntry) :
    e.atDepths depth = (depth, e) :: e.children.flatMap (atDepths (depth + 1)) := by
  cases e with
  | mk element number title id? footnotes children => rw [atDepths, allAtDepths_eq]

end OutlineEntry

namespace Report

/-- The entries of the outline in pre-order with their depths. -/
def entriesAtDepths (r : Report) : List (Nat × OutlineEntry) :=
  r.outline.flatMap (OutlineEntry.atDepths 0)

/-- Without their depths they are the entries in pre-order. -/
theorem map_snd_entriesAtDepths (r : Report) : r.entriesAtDepths.map Prod.snd = r.entries := by
  rw [entriesAtDepths, entries, List.map_flatMap]
  exact congrArg (r.outline.flatMap ·) (funext (OutlineEntry.map_snd_atDepths 0))

/-- The line of an entry: its number, its title, and its identifier in brackets if it has one. -/
def line (number title : String) (id? : Option String) : String :=
  number ++ " " ++ title ++ (match id? with | some id => " [" ++ id ++ "]" | none => "") ++ "\n"

/-- The indent of a depth. -/
def indent (depth : Nat) : String := String.join (List.replicate depth "  ")

/-- The outline as it is printed. -/
def outlineText (r : Report) : String :=
  r.title ++ "\n" ++
    String.join (r.entriesAtDepths.map fun (depth, e) => indent depth ++ line e.number e.title e.id?)

/-- The formal items of a kind as they are printed, none for a kind that is not there. -/
def kindText (r : Report) (kind : String) : String :=
  String.join (((r.formalItems.lookup kind).getD []).map fun e => line e.number e.title e.id?)

/-- The formal items of all kinds as they are printed. -/
def kindsText (r : Report) : String :=
  String.join (r.formalItems.map fun (kind, entries) =>
    kind ++ "\n" ++ String.join (entries.map fun e => "  " ++ line e.number e.title e.id?))

end Report

/-! ### Texts that are joined -/

theorem join_flatMap {α : Type} (f : α → List String) (l : List α) :
    String.join (l.flatMap f) = String.join (l.map fun a => String.join (f a)) := by
  rw [← String.toList_inj]
  simp [List.flatMap_assoc, List.flatMap_map]

/-! ### Listings without colours -/

theorem paint_false (style : Text.Style) (text : String) : style.paint false text = text :=
  if_neg Bool.false_ne_true

theorem elementLine_false (number title : String) (id? : Option String) :
    elementLine false number title id? = Report.line number title id? := by
  cases id? with
  | none => simp [elementLine, Report.line, paint_false]
  | some id =>
      rw [← String.toList_inj]
      simp [elementLine, Report.line, paint_false]

open OutlineEntry

/-- The lines of some entries with their depths. -/
def linesOf (entries : List (Nat × OutlineEntry)) : String :=
  String.join (entries.map fun (depth, e) =>
    Report.indent depth ++ Report.line e.number e.title e.id?)

theorem linesOf_cons (depth : Nat) (e : OutlineEntry) (rest : List (Nat × OutlineEntry)) :
    linesOf ((depth, e) :: rest) =
      Report.indent depth ++ Report.line e.number e.title e.id? ++ linesOf rest :=
  String.join_cons

theorem linesOf_flatMap {α : Type} (f : α → List (Nat × OutlineEntry)) (l : List α) :
    linesOf (l.flatMap f) = String.join (l.map fun a => linesOf (f a)) := by
  rw [linesOf, List.map_flatMap, join_flatMap]
  rfl

theorem indent_succ (depth : Nat) : Report.indent (depth + 1) = Report.indent depth ++ "  " := by
  rw [Report.indent, List.replicate_succ', String.join_append]
  rfl

theorem linesOf_ofSubsection (depth : Nat) (t : Subsection) :
    linesOf ((ofSubsection t).atDepths depth) =
      Report.indent depth ++ elementLine false t.number.text t.title t.id? := by
  rw [atDepths_eq, linesOf_cons, elementLine_false]
  simp [ofSubsection, linesOf]

/-- A section is printed behind an indent that is two spaces for each depth. -/
theorem linesOf_ofSection (depth : Nat) (s : Section) :
    linesOf ((ofSection s).atDepths depth) = s.outlineLines false (Report.indent depth) := by
  rw [atDepths_eq, linesOf_cons, ← elementLine_false, Section.outlineLines]
  simp [ofSection, List.flatMap_map, linesOf_flatMap, linesOf_ofSubsection, indent_succ]

theorem indent_zero : Report.indent 0 = "" := rfl

theorem indent_one : Report.indent 1 = "  " := rfl

theorem linesOf_ofPart (p : Part) : linesOf ((ofPart p).atDepths 0) = p.outlineLines false := by
  rw [atDepths_eq, linesOf_cons, ← elementLine_false, Part.outlineLines, indent_zero]
  simp [ofPart, List.flatMap_map, linesOf_flatMap, linesOf_ofSection, indent_one]

namespace Document

theorem outlineListing_eq (d : Document) :
    d.outlineListing false = (Report.ofDocument d).outlineText := by
  have hlines : (Report.ofDocument d).outlineText =
      d.title ++ "\n" ++ linesOf ((Report.outlineOf d).flatMap (atDepths 0)) := rfl
  rw [hlines, outlineListing, paint_false, Report.outlineOf]
  cases d.body with
  | parts divisions => simp [List.flatMap_map, linesOf_flatMap, linesOf_ofPart]
  | sections divisions =>
      simp [List.flatMap_map, linesOf_flatMap, linesOf_ofSection, indent_zero]

theorem lookup_map_of_mem {α : Type} (f : String → α) {names : List String} {name : String}
    (h : name ∈ names) : (names.map fun n => (n, f n)).lookup name = some (f name) := by
  induction names with
  | nil => cases h
  | cons n rest ih =>
      rw [List.map_cons, List.lookup_cons]
      by_cases hn : name = n
      · rw [hn, beq_self_eq_true]
      · rw [beq_eq_false_iff_ne.mpr hn]
        exact ih (List.mem_of_ne_of_mem hn h)

/-- The report lists under a kind what is filed under it. -/
theorem lookup_formalItems (d : Document) (kind : String) :
    ((Report.ofDocument d).formalItems.lookup kind).getD [] =
      (d.index.formalItems.byKind kind).map .ofFormalItem := by
  show ((d.index.formalItems.kinds.map fun kind => (kind, _)).lookup kind).getD [] = _
  by_cases hkind : kind ∈ d.index.formalItems.kinds
  · rw [lookup_map_of_mem (fun kind => (d.index.formalItems.byKind kind).map
      FormalItemEntry.ofFormalItem) hkind, Option.getD_some]
  · -- Neither the report nor the index has anything for the kind.
    have hitems : d.index.formalItems.byKind kind = [] :=
      List.eq_nil_iff_forall_not_mem.mpr fun f hf =>
        hkind (FormalItems.mem_kinds_of_mem_byKind hf)
    have habsent : (d.index.formalItems.kinds.map fun kind =>
        (kind, (d.index.formalItems.byKind kind).map FormalItemEntry.ofFormalItem)).lookup kind =
          none := by
      rw [List.lookup_eq_none_iff]
      intro group hgroup
      rcases List.mem_map.mp hgroup with ⟨other, hother, rfl⟩
      exact bne_iff_ne.mpr fun heq => hkind (heq ▸ hother)
    rw [habsent, hitems]
    rfl

theorem formalItemListing_eq (d : Document) (kind : String) :
    d.formalItemListing false (some kind) = (Report.ofDocument d).kindText kind := by
  rw [Report.kindText, lookup_formalItems, List.map_map, formalItemListing]
  simp [FormalItem.line, elementLine_false, FormalItemEntry.ofFormalItem, Function.comp_def]

theorem formalItemListing_none (d : Document) :
    d.formalItemListing false none = (Report.ofDocument d).kindsText := by
  rw [Report.kindsText, formalItemListing]
  simp [Report.ofDocument, paint_false, FormalItem.line, elementLine_false,
    FormalItemEntry.ofFormalItem, Function.comp_def]

end Document

namespace Workspace

open Surroundings

/-- What the commands print of a document that was loaded is what its report has. -/
theorem run_listings {w : Workspace} {file : String} {d : Document} (hload : w.load file = .ok d)
    (verbose : Bool) :
    let r := Report.ofDocument d
    (∀ format, w.run false ⟨file, .report format none, verbose⟩ =
        (.ok (), w.printing (match format with | .yaml => r.yaml | .json => r.json))) ∧
      w.run false ⟨file, .outline, verbose⟩ = (.ok (), w.printing r.outlineText) ∧
      (∀ kind, w.run false ⟨file, .formals (some kind), verbose⟩ =
        (.ok (), w.printing (r.kindText kind))) ∧
      w.run false ⟨file, .formals none, verbose⟩ = (.ok (), w.printing r.kindsText) := by
  intro r
  refine ⟨fun format => ?_, ?_, fun kind => ?_, ?_⟩
  · refine run_of_text hload (show textOf false d _ = _ from ?_) rfl
    cases format with
    | yaml => rfl
    | json => rfl
  · exact run_of_text hload (congrArg Except.ok d.outlineListing_eq) rfl
  · exact run_of_text hload (congrArg Except.ok (d.formalItemListing_eq kind)) rfl
  · exact run_of_text hload (congrArg Except.ok d.formalItemListing_none) rfl

/-- A draft with a part and a figure. -/
def archive : Workspace :=
  ⟨⟨[(["draft"], ("title: T\nparts:\n- title: P\n  id: p\n  sections:\n  - title: S\n" ++
      "    content:\n    - formal_item:\n       title: F\n       kind: figure\n" ++
      "       content:\n        verbatim:\n         text: x\n").toUTF8)], fun _ => none⟩, "", ""⟩

theorem run_archive_listings : ∃ d, archive.load "draft" = .ok d ∧
    archive.run false ⟨"draft", .outline, false⟩ =
      (.ok (), archive.printing "T\n1 P [p]\n  1.1 S\n") ∧
    archive.run false ⟨"draft", .formals none, false⟩ =
      (.ok (), archive.printing "figure\n  1.1.1 F\n") := by
  have hlistings : ((archive.load "draft").toOption.map fun d =>
      ((Report.ofDocument d).outlineText, (Report.ofDocument d).kindsText)) =
        some ("T\n1 P [p]\n  1.1 S\n", "figure\n  1.1.1 F\n") := by
    decide +kernel
  cases hload : archive.load "draft" with
  | error failure =>
      rw [hload] at hlistings
      cases hlistings
  | ok d =>
      rw [hload] at hlistings
      rcases Prod.mk.inj (Option.some.inj hlistings) with ⟨houtline, hkinds⟩
      rcases run_listings hload false with ⟨-, hrunOutline, -, hrunKinds⟩
      rw [houtline] at hrunOutline
      rw [hkinds] at hrunKinds
      exact ⟨d, rfl, hrunOutline, hrunKinds⟩

end Workspace

end Manuscript
