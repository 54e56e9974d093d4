import Manuscript.Proofs.Index.FormalItems
import Manuscript.Proofs.Numbering.Structure

/-!
# Gathering the Index

The walk over a draft does two things at once. It builds the numbered
elements, and it files them in the index, where it may fail. This layer takes
the two apart. What is built is known without the index, and what happens to
the index depends only on the footnotes that are added and on the list of
elements that are filed.

`Draft.Document.enumerate_eq` says so for a whole draft: it is numbered by
building its numbered body and then gathering the footnotes and elements of
that body to the empty index. Facts about numbers and footnotes are facts
about the first half, which cannot fail, and facts about identifiers are facts
about the second, which is a fold over a list.

Each step of the walk gathers what it builds. That this holds for lists is shown
once, in `Index.gatherEach`; the walk over blocks and the walks over siblings
only differ in what they count.

## Main definitions

* `Index.gather`: The index after footnotes and elements.

## Theorems

* `Index.gather_bind`: Gathering and going on is gathering more.
* `Index.gatherEach`: A list is gathered if each of its elements is.
* `Draft.Section.enumerate_eq`: Numbering a section gathers what it holds.
* `Draft.Document.enumerate_eq`: Numbering a draft builds and then gathers.
* `Draft.Document.enumerate_eq_ok_iff`: When a draft is numbered, and how.
-/

namespace Manuscript

namespace Index

/-- The index after some footnotes and elements, if the identifiers of the elements are free. -/
def gather (index : Index) (notes : List NumberedNote) (elements : List Element) :
    Except DuplicateIdentifier Index := do
  let identifiers ← elements.foldlM Identifiers.defineIfAny index.identifiers
  return ⟨identifiers, index.footnotes.extend notes, index.formalItems.fileAll elements⟩

theorem gather_nil (index : Index) : index.gather [] [] = .ok index := by
  rw [gather, List.foldlM_nil, Footnotes.extend_nil]
  rfl

theorem gather_append (index : Index) (l r : List NumberedNote) (d e : List Element) :
    (index.gather l d >>= fun index => index.gather r e) = index.gather (l ++ r) (d ++ e) := by
  simp only [gather, List.foldlM_append, FormalItems.fileAll_append, ← Footnotes.extend_extend]
  cases d.foldlM Identifiers.defineIfAny index.identifiers with
  | error conflict => rfl
  | ok identifiers => rfl

theorem gather_eq_ok {index after : Index} {notes : List NumberedNote} {elements : List Element}
    (h : index.gather notes elements = .ok after) :
    elements.foldlM Identifiers.defineIfAny index.identifiers = .ok after.identifiers ∧
      after.footnotes = index.footnotes.extend notes ∧
      after.formalItems = index.formalItems.fileAll elements := by
  rw [gather] at h
  cases hf : elements.foldlM Identifiers.defineIfAny index.identifiers with
  | error conflict =>
      rw [hf] at h
      cases h
  | ok identifiers =>
      rw [hf] at h
      cases h
      exact ⟨rfl, rfl, rfl⟩

theorem footnotes_of_gather {index after : Index} {notes : List NumberedNote}
    {elements : List Element} (h : index.gather notes elements = .ok after) :
    after.footnotes = index.footnotes.extend notes :=
  (gather_eq_ok h).2.1

/-- Going on after footnotes and elements are gathered. What follows may count on the number of
    footnotes, and on nothing else about the index. -/
theorem gather_bind {α β : Type} {index : Index} {l r : List NumberedNote} {d e : List Element}
    {x : α} {y : β} {rest : α × Index → Except DuplicateIdentifier (β × Index)}
    (h : ∀ after : Index, after.footnotes.size = index.footnotes.size + l.length →
      rest (x, after) = (after.gather r e).map (Prod.mk y)) :
    ((index.gather l d).map (Prod.mk x) >>= rest) =
      (index.gather (l ++ r) (d ++ e)).map (Prod.mk y) := by
  rw [← gather_append]
  -- An identifier that is refused early ends both sides in the same way.
  cases ha : index.gather l d with
  | error conflict => rfl
  | ok after => exact h after (by rw [footnotes_of_gather ha, Footnotes.size_extend])

/-- Filing one element, after its footnotes and, for a formal item, after its kind. -/
theorem gather_singleton (index : Index) (notes : List NumberedNote) (element : Element) :
    index.gather notes [element] =
      file ⟨index.identifiers, index.footnotes.extend notes,
        index.formalItems.fileAll [element]⟩ element := by
  rw [gather, file, List.foldlM_cons]
  simp only [List.foldlM_nil, bind_pure]

/-- Filing an element that is no formal item is gathering it alone. -/
theorem file_eq {index : Index} {element : Element}
    (h : index.formalItems.fileAll [element] = index.formalItems) :
    index.file element = index.gather [] [element] := by
  rw [gather_singleton, h, Footnotes.extend_nil]

theorem map_eq_bind {α β : Type} (f : α → β) (x : Except DuplicateIdentifier α) :
    x.map f = x >>= fun a => .ok (f a) := by
  cases x with
  | error conflict => rfl
  | ok a => rfl

theorem map_bind {α β γ : Type} (f : α → β) (x : Except DuplicateIdentifier α)
    (g : β → Except DuplicateIdentifier γ) : (x.map f >>= g) = x >>= fun a => g (f a) := by
  cases x with
  | error conflict => rfl
  | ok a => rfl

/-- A division is built when what it holds is gathered, and then filed. It may look at the
    index, as long as it finds there what it would find without it. -/
theorem gather_file {α β : Type} {index : Index} {notes : List NumberedNote}
    {elements : List Element} {x : α} {y : β} (build : α → Index → β) (element : β → Element)
    (hbuild : ∀ after, index.gather notes elements = .ok after → build x after = y)
    (hfile : ∀ t : FormalItems, t.fileAll [element y] = t) :
    ((index.gather notes elements).map (Prod.mk x) >>= fun z =>
      z.2.file (element (build z.1 z.2)) >>= fun after => .ok (build z.1 z.2, after)) =
        (index.gather notes (elements ++ [element y])).map (Prod.mk y) := by
  -- The division brings no footnotes of its own, those in it were added with what it holds.
  rw [← List.append_nil notes, ← gather_append, List.append_nil]
  cases ha : index.gather notes elements with
  | error conflict => rfl
  | ok after =>
      have hy := hbuild after ha
      have he : after.gather [] [element y] = after.file (element y) := (file_eq (hfile _)).symm
      rw [map_eq_bind, map_eq_bind]
      simp only [bind, Except.bind, hy, he]

/-- Passing the index from element to element is a walk that gathers what the elements hold, if
    each step is. The state of the walk has to know how many footnotes there are. -/
theorem gatherEach {σ α β : Type} (count : σ → Nat) {next : σ → α → σ} {f : σ → α → β}
    (run : σ → List α → Index → Except DuplicateIdentifier (List β × Index))
    (step : σ → α → Index → Except DuplicateIdentifier (β × Index))
    {notes : β → List NumberedNote} {elements : β → List Element}
    (hnil : ∀ s index, run s [] index = .ok ([], index))
    (hcons : ∀ s x rest index, run s (x :: rest) index =
      step s x index >>= fun y => run (next s x) rest y.2 >>= fun ys => .ok (y.1 :: ys.1, ys.2))
    (hstep : ∀ s x index, index.footnotes.size = count s →
      step s x index = (index.gather (notes (f s x)) (elements (f s x))).map (Prod.mk (f s x)))
    (hcount : ∀ s x, count (next s x) = count s + (notes (f s x)).length)
    (s : σ) (xs : List α) (index : Index) (h : index.footnotes.size = count s) :
    run s xs index =
      (index.gather ((walk next f s xs).flatMap notes) ((walk next f s xs).flatMap elements)).map
        (Prod.mk (walk next f s xs)) := by
  induction xs generalizing s index with
  | nil =>
      rw [hnil, walk, List.flatMap_nil, List.flatMap_nil, gather_nil]
      rfl
  | cons x rest ih =>
      rw [hcons, hstep s x index h, walk, List.flatMap_cons, List.flatMap_cons]
      -- After one element the state still knows the number of footnotes.
      refine gather_bind fun after hsize => ?_
      rw [ih (next s x) after (by rw [hsize, hcount, h]), map_bind, map_eq_bind]

end Index

namespace Draft

theorem Paragraph.enumerate_eq (p : Paragraph) (number : ParagraphNumber) (index : Index) :
    p.enumerate number index =
      (index.gather (p.numberFrom number index.footnotes.size).notes
        [.paragraph (p.numberFrom number index.footnotes.size)]).map
          (Prod.mk (p.numberFrom number index.footnotes.size)) := by
  rw [Paragraph.enumerate, enumerateParagraphItems_eq, Index.gather_singleton, Index.map_eq_bind]
  rfl

theorem FormalItem.enumerate_eq (f : FormalItem) (number : FormalItemNumber) (index : Index) :
    f.enumerate number index =
      (index.gather (f.numberFrom number index.footnotes.size).notes
        [.formalItem (f.numberFrom number index.footnotes.size)]).map
          (Prod.mk (f.numberFrom number index.footnotes.size)) := by
  rw [FormalItem.enumerate, FormalContent.enumerate_eq, Index.gather_singleton, Index.map_eq_bind]
  rfl

/-- Numbers one block and files it. -/
def Block.enumerate (scope : Scope) (c : BlockCount) (b : Block) (index : Index) :
    Except DuplicateIdentifier (Manuscript.Block × Index) :=
  match b with
  | .paragraph p =>
    (p.enumerate (scope.paragraph (.ofIndex c.paragraphs)) index).map fun y => (.paragraph y.1, y.2)
  | .formalItem f =>
    (f.enumerate (scope.formalItem (.ofIndex c.formalItems)) index).map fun y =>
      (.formalItem y.1, y.2)

theorem Block.enumerate_eq (scope : Scope) (c : BlockCount) (b : Block) (index : Index)
    (h : index.footnotes.size = c.notes) :
    b.enumerate scope c index =
      (index.gather (b.numberFrom scope c).notes [(b.numberFrom scope c).element]).map
        (Prod.mk (b.numberFrom scope c)) := by
  cases b with
  | paragraph p =>
      rw [Block.enumerate, Paragraph.enumerate_eq, h, Index.map_eq_bind, Index.map_bind,
        Index.map_eq_bind]
      rfl
  | formalItem f =>
      rw [Block.enumerate, FormalItem.enumerate_eq, h, Index.map_eq_bind, Index.map_bind,
        Index.map_eq_bind]
      rfl

theorem enumerateBlocks_eq (scope : Scope) (blocks : List Block) (index : Index) :
    enumerateBlocks scope .first .first blocks index =
      (index.gather
        ((numberBlocks scope index.footnotes.size blocks).flatMap Manuscript.Block.notes)
        ((numberBlocks scope index.footnotes.size blocks).map Block.element)).map
          (Prod.mk (numberBlocks scope index.footnotes.size blocks)) := by
  -- The count goes by the draft, and the numbered block holds as many footnotes.
  have hcount : ∀ (c : BlockCount) (b : Block),
      (c.add b).notes = c.notes + (b.numberFrom scope c).notes.length := by
    intro c b
    rw [c.notes_add, length_of_number (b.number_notes scope c)]
  rw [List.map_eq_flatMap]
  refine Index.gatherEach BlockCount.notes
    (fun c => enumerateBlocks scope (.ofIndex c.paragraphs) (.ofIndex c.formalItems))
    (fun c b => b.enumerate scope c) (fun _ _ => rfl) (fun c b rest index => ?_)
    (Block.enumerate_eq scope) hcount ⟨0, 0, index.footnotes.size⟩ blocks index rfl
  cases b with
  | paragraph p =>
      rw [enumerateBlocks, Position.next_ofIndex, Block.enumerate, Index.map_bind]
      rfl
  | formalItem f =>
      rw [enumerateBlocks, Position.next_ofIndex, Block.enumerate, Index.map_bind]
      rfl

/-- Siblings are numbered from the first position on, each with what it holds. -/
theorem enumerateSiblings_eq {α β : Type} {held : α → List (Footnote Unit)}
    {f : Position → Nat → α → β}
    (run : Position → List α → Index → Except DuplicateIdentifier (List β × Index))
    (step : Position → α → Index → Except DuplicateIdentifier (β × Index))
    {notes : β → List NumberedNote} {elements : β → List Element}
    (hnil : ∀ p index, run p [] index = .ok ([], index))
    (hcons : ∀ p x rest index, run p (x :: rest) index =
      step p x index >>= fun y => run p.next rest y.2 >>= fun ys => .ok (y.1 :: ys.1, ys.2))
    (hstep : ∀ p x index, step p x index =
      (index.gather (notes (f p index.footnotes.size x))
        (elements (f p index.footnotes.size x))).map (Prod.mk (f p index.footnotes.size x)))
    (hnumber : ∀ p k x, (notes (f p k x)).map Footnote.number = List.range' k (held x).length)
    (xs : List α) (index : Index) :
    run .first xs index =
      (index.gather ((numberSiblings held f 0 index.footnotes.size xs).flatMap notes)
        ((numberSiblings held f 0 index.footnotes.size xs).flatMap elements)).map
          (Prod.mk (numberSiblings held f 0 index.footnotes.size xs)) := by
  refine Index.gatherEach Prod.snd (fun c => run (.ofIndex c.1)) (fun c => step (.ofIndex c.1))
    (fun c => hnil (.ofIndex c.1)) (fun c x rest index => ?_) (fun c x index h => ?_)
    (fun c x => ?_) (0, index.footnotes.size) xs index rfl
  · rw [hcons, Position.next_ofIndex]
  · rw [← h, hstep]
  · rw [length_of_number (hnumber _ c.2 x)]

theorem Subsection.enumerate_eq (number : SubsectionNumber) (s : Subsection) (index : Index) :
    s.enumerate number index =
      (index.gather (s.numberFrom number index.footnotes.size).notes
        (s.numberFrom number index.footnotes.size).elements).map
          (Prod.mk (s.numberFrom number index.footnotes.size)) := by
  rw [Subsection.enumerate, enumerateBlocks_eq]
  exact Index.gather_file
    (fun content _ => (⟨number, s.title, s.id?, s.type?, content⟩ : Manuscript.Subsection))
    .subsect (fun _ _ => rfl) (fun _ => rfl)

theorem enumerateSubsections_eq (parent : SectionNumber) (divisions : List Subsection)
    (index : Index) :
    enumerateSubsections parent .first divisions index =
      (index.gather
        ((numberSubsections parent index.footnotes.size divisions).flatMap
          Manuscript.Subsection.notes)
        ((numberSubsections parent index.footnotes.size divisions).flatMap
          Subsection.elements)).map
            (Prod.mk (numberSubsections parent index.footnotes.size divisions)) :=
  enumerateSiblings_eq (enumerateSubsections parent)
    (fun p s => s.enumerate (parent.subsectionAt p)) (fun _ _ => rfl) (fun _ _ _ _ => rfl)
    (fun p => Subsection.enumerate_eq (parent.subsectionAt p))
    (fun p => Subsection.number_notes (parent.subsectionAt p)) divisions index

theorem SectionBody.enumerate_eq (number : SectionNumber) (body : SectionBody) (index : Index) :
    body.enumerate number index =
      (index.gather (body.numberFrom number index.footnotes.size).notes
        (body.numberFrom number index.footnotes.size).elements).map
          (Prod.mk (body.numberFrom number index.footnotes.size)) := by
  cases body with
  | content blocks =>
      simp only [SectionBody.enumerate]
      rw [enumerateBlocks_eq, Index.map_bind, Index.map_eq_bind]
      rfl
  | subsections divisions =>
      simp only [SectionBody.enumerate]
      rw [enumerateSubsections_eq, Index.map_bind, Index.map_eq_bind]
      rfl

/-- What comes after the mark in the sequence are the footnotes of the body. -/
theorem Section.enumerate_eq (number : SectionNumber) (s : Section) (index : Index) :
    s.enumerate number index =
      (index.gather (s.numberFrom number index.footnotes.size).notes
        (s.numberFrom number index.footnotes.size).elements).map
          (Prod.mk (s.numberFrom number index.footnotes.size)) := by
  rw [Section.enumerate, SectionBody.enumerate_eq]
  refine Index.gather_file
    (fun body after => (⟨number, s.title, s.id?, s.type?, s.tableOfContents, body,
      after.footnotes.since index.footnotes.size⟩ : Manuscript.Section))
    .sect (fun after ha => ?_) (fun _ => rfl)
  rw [Index.footnotes_of_gather ha, Footnotes.since_extend]
  rfl

theorem enumerateSections_eq (part? : Option PartNumber) (divisions : List Section)
    (index : Index) :
    enumerateSections part? .first divisions index =
      (index.gather
        ((numberSections part? index.footnotes.size divisions).flatMap Manuscript.Section.notes)
        ((numberSections part? index.footnotes.size divisions).flatMap Section.elements)).map
          (Prod.mk (numberSections part? index.footnotes.size divisions)) :=
  enumerateSiblings_eq (enumerateSections part?) (fun p s => s.enumerate ⟨part?, p⟩)
    (fun _ _ => rfl) (fun _ _ _ _ => rfl) (fun p => Section.enumerate_eq ⟨part?, p⟩)
    (fun p => Section.number_notes ⟨part?, p⟩) divisions index

theorem Part.enumerate_eq (number : PartNumber) (p : Part) (index : Index) :
    p.enumerate number index =
      (index.gather (p.numberFrom number index.footnotes.size).notes
        (p.numberFrom number index.footnotes.size).elements).map
          (Prod.mk (p.numberFrom number index.footnotes.size)) := by
  rw [Part.enumerate, enumerateSections_eq]
  exact Index.gather_file
    (fun sections _ =>
      (⟨number, p.title, p.id?, p.type?, p.tableOfContents, sections⟩ : Manuscript.Part))
    .part (fun _ _ => rfl) (fun _ => rfl)

theorem enumerateParts_eq (divisions : List Part) (index : Index) :
    enumerateParts .first divisions index =
      (index.gather ((numberParts index.footnotes.size divisions).flatMap Manuscript.Part.notes)
        ((numberParts index.footnotes.size divisions).flatMap Part.elements)).map
          (Prod.mk (numberParts index.footnotes.size divisions)) :=
  enumerateSiblings_eq enumerateParts (fun p part => part.enumerate ⟨p⟩)
    (fun _ _ => rfl) (fun _ _ _ _ => rfl) (fun p => Part.enumerate_eq ⟨p⟩)
    (fun p => Part.number_notes ⟨p⟩) divisions index

theorem Body.enumerate_eq (body : Body) (index : Index) :
    body.enumerate index =
      (index.gather (body.numberFrom index.footnotes.size).notes
        (body.numberFrom index.footnotes.size).elements).map
          (Prod.mk (body.numberFrom index.footnotes.size)) := by
  cases body with
  | parts divisions =>
      simp only [Body.enumerate]
      rw [enumerateParts_eq, Index.map_bind, Index.map_eq_bind]
      rfl
  | sections divisions =>
      simp only [Body.enumerate]
      rw [enumerateSections_eq, Index.map_bind, Index.map_eq_bind]
      rfl

/-- A draft is numbered by gathering the footnotes and elements of its numbered body to the empty
    index. It fails where that fails. -/
theorem Document.enumerate_eq (d : Document) :
    d.enumerate = (Index.empty.gather d.numbered.notes d.numbered.elements).map fun index =>
      ⟨d.title, d.tableOfContents, d.style?, d.numbered, index⟩ := by
  rw [Document.enumerate, Body.enumerate_eq, Index.map_bind, Index.map_eq_bind]
  rfl

theorem Document.enumerate_eq_ok_iff {d : Document} {doc : Manuscript.Document} :
    d.enumerate = .ok doc ↔
      Index.empty.gather d.numbered.notes d.numbered.elements = .ok doc.index ∧
        doc = ⟨d.title, d.tableOfContents, d.style?, d.numbered, doc.index⟩ := by
  rw [Document.enumerate_eq]
  cases Index.empty.gather d.numbered.notes d.numbered.elements with
  | error conflict =>
      constructor
      · intro h
        cases h
      · rintro ⟨h, _⟩
        cases h
  | ok index =>
      constructor
      · intro h
        cases h
        exact ⟨rfl, rfl⟩
      · rintro ⟨h, hdoc⟩
        rw [hdoc, ← Except.ok.inj h]
        rfl

theorem exists_of_isOk {α : Type} {run : Except DuplicateIdentifier α} (h : run.isOk = true) :
    ∃ a, run = .ok a := by
  cases run with
  | error conflict => cases h
  | ok a => exact ⟨a, rfl⟩

/-- No identifier of the handbook is claimed twice. -/
theorem Document.enumerate_handbook : ∃ doc, handbook.enumerate = .ok doc :=
  exists_of_isOk (by decide +kernel)

end Draft

end Manuscript
