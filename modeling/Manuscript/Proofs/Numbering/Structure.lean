import Manuscript.Proofs.Content.Numbered
import Manuscript.Proofs.Numbering.Listing
import Manuscript.Proofs.Numbering.Place

/-!
# Numbered Structure

The numbered document that belongs to a draft, said without the index that
is filled on the way. What an element becomes depends on its place and on how
many footnotes stand before it, and on nothing else. So siblings are built by a
walk that counts both, and blocks by one that counts the two classes apart.

Nothing can fail here. Whether a draft can be numbered at all is a question
about the identifiers of the elements that are built, and it is asked after
all of them are.

## Main definitions

* `Draft.numberSiblings`, `Draft.numberBlocks`: The two walks.
* `Draft.Section.numberFrom`, `Draft.Body.numberFrom`: What numbering builds.
* `Draft.Document.numbered`: The numbered body of a draft.

## Theorems

* `Draft.position_numberFrom`: A block is built at its rank among those of its class.
* `Draft.getElem?_numberSiblings`: A sibling is built at its place.
* `Draft.map_numberSiblings`: What depends on the place alone is found by places.
* `Draft.Section.number_notes`: Footnotes of a section are numbered consecutively.
* `Draft.Body.number_notes`: So are those of the whole body.
-/

namespace Manuscript

/-! ### What numbering builds -/

namespace Draft

/-- A paragraph with its number, in which the first footnote has the number `k`. -/
def Paragraph.numberFrom (p : Paragraph) (number : ParagraphNumber) (k : Nat) :
    Manuscript.Paragraph :=
  ⟨number, p.id?, p.type?, numberParagraphItems k p.content⟩

def FormalItem.numberFrom (f : FormalItem) (number : FormalItemNumber) (k : Nat) :
    Manuscript.FormalItem :=
  ⟨number, f.title, f.kind, f.id?, f.type?, f.content.numberFrom k⟩

/-- What is counted while blocks are numbered. -/
structure BlockCount where
  /-- The paragraphs of the scope so far. -/
  paragraphs : Nat
  /-- The formal items of the scope so far. -/
  formalItems : Nat
  /-- The footnotes of the document so far. -/
  notes : Nat

/-- The count after a block. -/
def BlockCount.add (c : BlockCount) : Block → BlockCount
  | .paragraph p => ⟨c.paragraphs + 1, c.formalItems, c.notes + (Block.paragraph p).notes.length⟩
  | .formalItem f => ⟨c.paragraphs, c.formalItems + 1, c.notes + (Block.formalItem f).notes.length⟩

/-- The blocks of a class so far. -/
def BlockCount.of (c : BlockCount) : ItemClass → Nat
  | .paragraph => c.paragraphs
  | .formalItem => c.formalItems

/-- A block of a scope with the number that follows the count. -/
def Block.numberFrom (scope : Scope) (c : BlockCount) : Block → Manuscript.Block
  | .paragraph p => .paragraph (p.numberFrom (scope.paragraph (.ofIndex c.paragraphs)) c.notes)
  | .formalItem f => .formalItem (f.numberFrom (scope.formalItem (.ofIndex c.formalItems)) c.notes)

def numberBlocks (scope : Scope) (k : Nat) (blocks : List Block) : List Manuscript.Block :=
  walk BlockCount.add (Block.numberFrom scope) ⟨0, 0, k⟩ blocks

/-- Siblings that count their places and their footnotes, starting with `i` and `k` of them. -/
def numberSiblings {α β : Type} (held : α → List (Footnote Unit)) (f : Position → Nat → α → β)
    (i k : Nat) (xs : List α) : List β :=
  walk (fun c x => (c.1 + 1, c.2 + (held x).length)) (fun c x => f (.ofIndex c.1) c.2 x) (i, k) xs

def Subsection.numberFrom (number : SubsectionNumber) (k : Nat) (s : Subsection) :
    Manuscript.Subsection :=
  ⟨number, s.title, s.id?, s.type?, numberBlocks (.ofSubsection number) k s.content⟩

def numberSubsections (parent : SectionNumber) (k : Nat) (divisions : List Subsection) :
    List Manuscript.Subsection :=
  numberSiblings Subsection.notes (fun p => Subsection.numberFrom (parent.subsectionAt p)) 0 k
    divisions

def SectionBody.numberFrom (number : SectionNumber) (k : Nat) :
    SectionBody → Manuscript.SectionBody
  | .content blocks => .content (numberBlocks (.ofSection number) k blocks)
  | .subsections divisions => .subsections (numberSubsections number k divisions)

/-- A section with its number. Its footnotes are those of its body, and the first of them has
    the number `k`. -/
def Section.numberFrom (number : SectionNumber) (k : Nat) (s : Section) : Manuscript.Section :=
  let body := s.body.numberFrom number k
  ⟨number, s.title, s.id?, s.type?, s.tableOfContents, body, body.notes⟩

/-- The sections of a part or of a document without parts. -/
def numberSections (part? : Option PartNumber) (k : Nat) (divisions : List Section) :
    List Manuscript.Section :=
  numberSiblings Section.notes (fun p => Section.numberFrom ⟨part?, p⟩) 0 k divisions

def Part.numberFrom (number : PartNumber) (k : Nat) (p : Part) : Manuscript.Part :=
  ⟨number, p.title, p.id?, p.type?, p.tableOfContents, numberSections (some number) k p.sections⟩

def numberParts (k : Nat) (divisions : List Part) : List Manuscript.Part :=
  numberSiblings Part.notes (fun p => Part.numberFrom ⟨p⟩) 0 k divisions

def Body.numberFrom (k : Nat) : Body → Manuscript.Body
  | .parts divisions => .parts (numberParts k divisions)
  | .sections divisions => .sections (numberSections none k divisions)

/-- The body of a draft, numbered from the start. -/
def Document.numbered (d : Document) : Manuscript.Body := d.body.numberFrom 0

/-! ### Places in the walks -/

theorem of_foldl_add (c : BlockCount) (blocks : List Block) (k : ItemClass) :
    (blocks.foldl BlockCount.add c).of k = c.of k + (blocks.map Block.itemClass).count k := by
  induction blocks generalizing c with
  | nil => rfl
  | cons b rest ih =>
      -- A block raises the count of its own class and leaves the other one alone.
      have hstep : (c.add b).of k = c.of k + if b.itemClass == k then 1 else 0 := by
        cases b <;> cases k <;> rfl
      rw [List.foldl_cons, ih, List.map_cons, List.count_cons, hstep]
      omega

theorem itemClass_numberFrom (scope : Scope) (c : BlockCount) (b : Block) :
    (b.numberFrom scope c).itemClass = b.itemClass := by
  cases b with
  | paragraph p => rfl
  | formalItem f => rfl

/-- Ranks are about classes, and numbering keeps the classes of blocks. -/
theorem rank_numberBlocks (scope : Scope) (k : Nat) (blocks : List Block) (c : ItemClass)
    (i : Nat) :
    Manuscript.Block.rank c (numberBlocks scope k blocks) i = Block.rank c blocks i := by
  have hclasses : (numberBlocks scope k blocks).map Manuscript.Block.itemClass =
      blocks.map Block.itemClass := map_walk (itemClass_numberFrom scope) _ blocks
  rw [Manuscript.Block.rank, Block.rank, hclasses]

/-- A block is numbered in its scope, at its rank among the blocks of its class. -/
theorem scope_numberFrom (scope : Scope) (c : BlockCount) (b : Block) :
    (b.numberFrom scope c).scope = scope := by
  cases b with
  | paragraph p => rfl
  | formalItem f => rfl

/-- Where a block is built, its class was counted among all blocks before it. -/
theorem position_numberFrom (scope : Scope) (k : Nat) (blocks : List Block) (i : Nat) (b : Block) :
    (b.numberFrom scope ((blocks.take i).foldl BlockCount.add ⟨0, 0, k⟩)).position =
      .ofIndex (Block.rank b.itemClass blocks i) := by
  have hcount : ∀ c : BlockCount,
      (b.numberFrom scope c).position = .ofIndex (c.of b.itemClass) := by
    intro c
    cases b with
    | paragraph p => rfl
    | formalItem f => rfl
  have hzero : (⟨0, 0, k⟩ : BlockCount).of b.itemClass = 0 := by
    cases b with
    | paragraph p => rfl
    | formalItem f => rfl
  rw [hcount, of_foldl_add, hzero, Nat.zero_add, List.map_take]
  rfl

/-- The first count of the walk along siblings is their place, whatever they hold. -/
theorem fst_foldl_siblings {α : Type} (held : α → List (Footnote Unit)) (c : Nat × Nat)
    (xs : List α) :
    (xs.foldl (fun c x => (c.1 + 1, c.2 + (held x).length)) c).1 = c.1 + xs.length := by
  induction xs generalizing c with
  | nil => rfl
  | cons x rest ih =>
      rw [List.foldl_cons, ih, List.length_cons]
      omega

/-- A sibling is built at its place, whatever the count of footnotes is there. -/
theorem getElem?_numberSiblings {α β : Type} {held : α → List (Footnote Unit)}
    {f : Position → Nat → α → β} {k : Nat} {xs : List α} {i : Nat} {y : β}
    (h : (numberSiblings held f 0 k xs)[i]? = some y) :
    i < xs.length ∧ ∃ x ∈ xs, ∃ k, y = f (.ofIndex i) k x := by
  rw [numberSiblings, getElem?_walk, Option.map_eq_some_iff] at h
  rcases h with ⟨x, hx, rfl⟩
  rcases List.getElem?_eq_some_iff.mp hx with ⟨hi, _⟩
  have hplace := fst_foldl_siblings held (0, k) (xs.take i)
  rw [Nat.zero_add, List.length_take, Nat.min_eq_left (Nat.le_of_lt hi)] at hplace
  exact ⟨hi, x, List.mem_of_getElem? hx, _, congrArg (fun n => f (.ofIndex n) _ x) hplace⟩

theorem mem_numberSiblings {α β : Type} {held : α → List (Footnote Unit)}
    {f : Position → Nat → α → β} {k : Nat} {xs : List α} {y : β}
    (h : y ∈ numberSiblings held f 0 k xs) : ∃ x ∈ xs, ∃ p k, y = f p k x := by
  rcases List.mem_iff_getElem?.mp h with ⟨i, hi⟩
  rcases getElem?_numberSiblings hi with ⟨_, x, hx, k, heq⟩
  exact ⟨x, hx, .ofIndex i, k, heq⟩

theorem length_numberSiblings {α β : Type} (held : α → List (Footnote Unit))
    (f : Position → Nat → α → β) (i k : Nat) (xs : List α) :
    (numberSiblings held f i k xs).length = xs.length :=
  length_walk (i, k) xs

/-- What depends on the place of a sibling alone is found without the count of footnotes. -/
theorem map_numberSiblings {α β γ : Type} {held : α → List (Footnote Unit)}
    {f : Position → Nat → α → β} {g : β → γ} {place : Nat → α → γ}
    (h : ∀ i k x, g (f (.ofIndex i) k x) = place i x) (k : Nat) (xs : List α) :
    (numberSiblings held f 0 k xs).map g = xs.mapIdx place := by
  -- The places go up along the list, so the induction is on lists that start at any place.
  have hfrom : ∀ i k, (numberSiblings held f i k xs).map g =
      xs.mapIdx fun j x => place (i + j) x := by
    induction xs with
    | nil => exact fun _ _ => rfl
    | cons x rest ih =>
        intro i k
        have hrest := ih (i + 1) (k + (held x).length)
        unfold numberSiblings at hrest ⊢
        rw [walk, List.map_cons, hrest, h, List.mapIdx_cons]
        simp only [Nat.add_right_comm, Nat.add_assoc, Nat.add_zero]
  rw [hfrom]
  simp only [Nat.zero_add]

/-! ### Consecutive numbers -/

theorem Block.number_notes (scope : Scope) (c : BlockCount) (b : Block) :
    (b.numberFrom scope c).notes.map Footnote.number = List.range' c.notes b.notes.length := by
  cases b with
  | paragraph p => exact number_notesOfParagraphItems c.notes p.content
  | formalItem f => exact f.content.number_notes c.notes

theorem BlockCount.notes_add (c : BlockCount) (b : Block) :
    (c.add b).notes = c.notes + b.notes.length := by
  cases b with
  | paragraph p => rfl
  | formalItem f => rfl

theorem number_notesOfBlocks (scope : Scope) (k : Nat) (blocks : List Block) :
    ((numberBlocks scope k blocks).flatMap Manuscript.Block.notes).map Footnote.number =
      List.range' k (blocks.flatMap Block.notes).length :=
  number_flatMap_walk BlockCount.notes BlockCount.notes_add (Block.number_notes scope) ⟨0, 0, k⟩
    blocks

theorem number_notesOfSiblings {α β : Type} {held : α → List (Footnote Unit)}
    {f : Position → Nat → α → β} {notes : β → List NumberedNote}
    (h : ∀ p k x, (notes (f p k x)).map Footnote.number = List.range' k (held x).length)
    (i k : Nat) (xs : List α) :
    ((numberSiblings held f i k xs).flatMap notes).map Footnote.number =
      List.range' k (xs.flatMap held).length :=
  number_flatMap_walk Prod.snd (fun _ _ => rfl) (fun c x => h (.ofIndex c.1) c.2 x) (i, k) xs

theorem Subsection.number_notes (number : SubsectionNumber) (k : Nat) (s : Subsection) :
    (s.numberFrom number k).notes.map Footnote.number = List.range' k s.notes.length :=
  number_notesOfBlocks (.ofSubsection number) k s.content

theorem SectionBody.number_notes (number : SectionNumber) (k : Nat) (body : SectionBody) :
    (body.numberFrom number k).notes.map Footnote.number = List.range' k body.notes.length := by
  cases body with
  | content blocks => exact number_notesOfBlocks (.ofSection number) k blocks
  | subsections divisions =>
      exact number_notesOfSiblings (fun p => Subsection.number_notes (number.subsectionAt p)) 0 k
        divisions

theorem Section.number_notes (number : SectionNumber) (k : Nat) (s : Section) :
    (s.numberFrom number k).notes.map Footnote.number = List.range' k s.notes.length :=
  s.body.number_notes number k

theorem Part.number_notes (number : PartNumber) (k : Nat) (p : Part) :
    (p.numberFrom number k).notes.map Footnote.number = List.range' k p.notes.length :=
  number_notesOfSiblings (fun q => Section.number_notes ⟨some number, q⟩) 0 k p.sections

theorem Body.number_notes (k : Nat) (body : Body) :
    (body.numberFrom k).notes.map Footnote.number = List.range' k body.notes.length := by
  cases body with
  | parts divisions =>
      exact number_notesOfSiblings (fun p => Part.number_notes ⟨p⟩) 0 k divisions
  | sections divisions =>
      exact number_notesOfSiblings (fun p => Section.number_notes ⟨none, p⟩) 0 k divisions

end Draft

end Manuscript
