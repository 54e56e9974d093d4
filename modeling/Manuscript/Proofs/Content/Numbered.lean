import Manuscript.Numbering
import Manuscript.Proofs.Content.Notes
import Manuscript.Proofs.Walk

/-!
# Numbered Content

What numbering makes of content, said without the sequence of footnotes that
is passed along. A footnote is numbered by how many footnotes were finished
before it, so the only thing that numbering takes from what came before is a
count. `Inline.numberFrom` numbers content from a count on, and the count for
later pieces comes from how many footnotes the earlier ones hold.

`Inline.enumerate_eq` says that walking along with the sequence gives this
content, and that what the walk adds to the sequence are the footnotes of the
content, in their order. Everything else about numbered content then follows
from the content alone: its footnotes carry consecutive numbers, and without
the numbers it is the content of the draft.

## Main definitions

* `Inline.numberFrom`, `FormalContent.numberFrom`: Content numbered from a count.
* `Footnotes.extend`: A sequence with more footnotes at its end.

## Theorems

* `Inline.number_notes`: The footnotes of content are numbered consecutively.
* `Inline.mapNumbers_numberFrom`: Numbering changes nothing but numbers.
* `Inline.enumerate_eq`: The walk adds the footnotes of the content it returns.
-/

namespace Manuscript

mutual

/-- Inline content whose first footnote has the number `k`. -/
def Inline.numberFrom (k : Nat) : Inline Unit → Inline FootnoteNumber
  | .text t => .text t
  | .term t => .term t
  | .link l => .link l
  | .image i => .image i
  | .list l => .list (l.numberFrom k)
  | .footnote n => .footnote (n.numberFrom k)
  | .verbatim v => .verbatim v

def ItemList.numberFrom (k : Nat) : ItemList Unit → ItemList FootnoteNumber
  | ⟨style, type?, items⟩ => ⟨style, type?, numberItems k items⟩

def numberItems (k : Nat) : List (ListItem Unit) → List (ListItem FootnoteNumber)
  | [] => []
  | item :: rest => item.numberFrom k :: numberItems (k + item.notes.length) rest

def ListItem.numberFrom (k : Nat) : ListItem Unit → ListItem FootnoteNumber
  | ⟨type?, content⟩ => ⟨type?, numberInlines k content⟩

/-- A footnote within which numbers start at `k`. Its own number comes after them. -/
def Footnote.numberFrom (k : Nat) : Footnote Unit → NumberedNote
  | ⟨_, content⟩ => ⟨k + (notesOfInlines content).length, numberInlines k content⟩

def numberInlines (k : Nat) : List (Inline Unit) → List (Inline FootnoteNumber)
  | [] => []
  | c :: rest => c.numberFrom k :: numberInlines (k + c.notes.length) rest

end

/-- Table cells whose first footnote has the number `k`. -/
def numberRow (k : Nat) (row : Row Unit) : Row FootnoteNumber :=
  walk (fun k cell => k + (notesOfInlines cell).length) numberInlines k row

def numberRows (k : Nat) (rows : List (Row Unit)) : List (Row FootnoteNumber) :=
  walk (fun k row => k + (row.flatMap notesOfInlines).length) numberRow k rows

def Table.numberFrom (k : Nat) (t : Table Unit) : Table FootnoteNumber :=
  ⟨t.summary, t.head?, numberRows k t.body⟩

def ParagraphItem.numberFrom (k : Nat) : ParagraphItem Unit → ParagraphItem FootnoteNumber
  | .inline c => .inline (c.numberFrom k)
  | .table t => .table (t.numberFrom k)
  | .listing kind => .listing kind

def numberParagraphItems (k : Nat) (content : List (ParagraphItem Unit)) :
    List (ParagraphItem FootnoteNumber) :=
  walk (fun k c => k + c.notes.length) ParagraphItem.numberFrom k content

def FormalContent.numberFrom (k : Nat) : FormalContent Unit → FormalContent FootnoteNumber
  | .listing kind => .listing kind
  | .image i => .image i
  | .list l => .list (l.numberFrom k)
  | .table t => .table (t.numberFrom k)
  | .verbatim v => .verbatim v

/-! ### Consecutive numbers -/

mutual

theorem Inline.number_notes (k : Nat) : ∀ c : Inline Unit,
    (c.numberFrom k).notes.map Footnote.number = List.range' k c.notes.length
  | .text _ => rfl
  | .term _ => rfl
  | .link _ => rfl
  | .image _ => rfl
  | .list l => ItemList.number_notes k l
  | .footnote n => Footnote.number_notes k n
  | .verbatim _ => rfl

theorem ItemList.number_notes (k : Nat) : ∀ l : ItemList Unit,
    (l.numberFrom k).notes.map Footnote.number = List.range' k l.notes.length
  | ⟨_, _, items⟩ => number_notesOfItems k items

theorem number_notesOfItems (k : Nat) : ∀ items : List (ListItem Unit),
    (notesOfItems (numberItems k items)).map Footnote.number =
      List.range' k (notesOfItems items).length
  | [] => rfl
  | item :: rest => by
      rw [numberItems, notesOfItems, notesOfItems, List.map_append, List.length_append,
        ListItem.number_notes k item, number_notesOfItems _ rest, List.range'_append_1]

theorem ListItem.number_notes (k : Nat) : ∀ item : ListItem Unit,
    (item.numberFrom k).notes.map Footnote.number = List.range' k item.notes.length
  | ⟨_, content⟩ => number_notesOfInlines k content

/-- The footnote itself takes the number after those within it. -/
theorem Footnote.number_notes (k : Nat) : ∀ n : Footnote Unit,
    (n.numberFrom k).notes.map Footnote.number = List.range' k n.notes.length
  | ⟨_, content⟩ => by
      rw [Footnote.numberFrom, Footnote.notes, Footnote.notes, List.map_append,
        List.length_append, number_notesOfInlines k content, ← List.range'_append_1]
      rfl

theorem number_notesOfInlines (k : Nat) : ∀ cs : List (Inline Unit),
    (notesOfInlines (numberInlines k cs)).map Footnote.number =
      List.range' k (notesOfInlines cs).length
  | [] => rfl
  | c :: rest => by
      rw [numberInlines, notesOfInlines, notesOfInlines, List.map_append, List.length_append,
        Inline.number_notes k c, number_notesOfInlines _ rest, List.range'_append_1]

end

/-- Where each element takes consecutive numbers from the count on, so does the whole list. -/
theorem number_flatMap_walk {σ α β : Type} (count : σ → Nat) {next : σ → α → σ} {f : σ → α → β}
    {held : α → List (Footnote Unit)} {numbered : β → List NumberedNote}
    (hnext : ∀ s x, count (next s x) = count s + (held x).length)
    (hf : ∀ s x, (numbered (f s x)).map Footnote.number = List.range' (count s) (held x).length)
    (s : σ) (xs : List α) :
    ((walk next f s xs).flatMap numbered).map Footnote.number =
      List.range' (count s) (xs.flatMap held).length := by
  induction xs generalizing s with
  | nil => rfl
  | cons x rest ih =>
      rw [walk, List.flatMap_cons, List.flatMap_cons, List.map_append, List.length_append, hf, ih,
        hnext, List.range'_append_1]

theorem number_notesOfRow (k : Nat) (row : Row Unit) :
    ((numberRow k row).flatMap notesOfInlines).map Footnote.number =
      List.range' k (row.flatMap notesOfInlines).length :=
  number_flatMap_walk (fun k => k) (fun _ _ => rfl) number_notesOfInlines k row

theorem Table.number_notes (k : Nat) (t : Table Unit) :
    (t.numberFrom k).notes.map Footnote.number = List.range' k t.notes.length :=
  number_flatMap_walk (fun k => k) (fun _ _ => rfl) number_notesOfRow k t.body

theorem ParagraphItem.number_notes (k : Nat) : ∀ c : ParagraphItem Unit,
    (c.numberFrom k).notes.map Footnote.number = List.range' k c.notes.length
  | .inline c => c.number_notes k
  | .table t => t.number_notes k
  | .listing _ => rfl

theorem number_notesOfParagraphItems (k : Nat) (content : List (ParagraphItem Unit)) :
    ((numberParagraphItems k content).flatMap ParagraphItem.notes).map Footnote.number =
      List.range' k (content.flatMap ParagraphItem.notes).length :=
  number_flatMap_walk (fun k => k) (fun _ _ => rfl) ParagraphItem.number_notes k content

theorem FormalContent.number_notes (k : Nat) : ∀ c : FormalContent Unit,
    (c.numberFrom k).notes.map Footnote.number = List.range' k c.notes.length
  | .listing _ => rfl
  | .image _ => rfl
  | .list l => l.number_notes k
  | .table t => t.number_notes k
  | .verbatim _ => rfl

/-- Footnotes with consecutive numbers are as many as there are numbers. -/
theorem length_of_number {notes : List NumberedNote} {k n : Nat}
    (h : notes.map Footnote.number = List.range' k n) : notes.length = n := by
  rw [← List.length_map (f := Footnote.number), h, List.length_range']

/-! ### Nothing but numbers -/

mutual

theorem Inline.mapNumbers_numberFrom (k : Nat) : ∀ c : Inline Unit,
    (c.numberFrom k).mapNumbers (fun _ => ()) = c
  | .text _ => rfl
  | .term _ => rfl
  | .link _ => rfl
  | .image _ => rfl
  | .list l => congrArg Inline.list (ItemList.mapNumbers_numberFrom k l)
  | .footnote n => congrArg Inline.footnote (Footnote.mapNumbers_numberFrom k n)
  | .verbatim _ => rfl

theorem ItemList.mapNumbers_numberFrom (k : Nat) : ∀ l : ItemList Unit,
    (l.numberFrom k).mapNumbers (fun _ => ()) = l
  | ⟨style, type?, items⟩ => congrArg (ItemList.mk style type?) (mapItems_numberItems k items)

theorem mapItems_numberItems (k : Nat) : ∀ items : List (ListItem Unit),
    mapItems (fun _ => ()) (numberItems k items) = items
  | [] => rfl
  | item :: rest => by
      rw [numberItems, mapItems, ListItem.mapNumbers_numberFrom k item,
        mapItems_numberItems _ rest]

theorem ListItem.mapNumbers_numberFrom (k : Nat) : ∀ item : ListItem Unit,
    (item.numberFrom k).mapNumbers (fun _ => ()) = item
  | ⟨type?, content⟩ => congrArg (ListItem.mk type?) (mapInlines_numberInlines k content)

theorem Footnote.mapNumbers_numberFrom (k : Nat) : ∀ n : Footnote Unit,
    (n.numberFrom k).mapNumbers (fun _ => ()) = n
  | ⟨_, content⟩ => congrArg (Footnote.mk ()) (mapInlines_numberInlines k content)

theorem mapInlines_numberInlines (k : Nat) : ∀ cs : List (Inline Unit),
    mapInlines (fun _ => ()) (numberInlines k cs) = cs
  | [] => rfl
  | c :: rest => by
      rw [numberInlines, mapInlines, Inline.mapNumbers_numberFrom k c,
        mapInlines_numberInlines _ rest]

end

theorem mapRow_numberRow (k : Nat) (row : Row Unit) :
    (numberRow k row).map (mapInlines fun _ => ()) = row := by
  rw [numberRow, map_walk mapInlines_numberInlines, List.map_id']

theorem Table.mapNumbers_numberFrom (k : Nat) (t : Table Unit) :
    (t.numberFrom k).mapNumbers (fun _ => ()) = t := by
  have hbody : (numberRows k t.body).map (·.map (mapInlines fun _ => ())) = t.body := by
    rw [numberRows, map_walk mapRow_numberRow, List.map_id']
  rw [Table.numberFrom, Table.mapNumbers, hbody]

theorem ParagraphItem.mapNumbers_numberFrom (k : Nat) : ∀ c : ParagraphItem Unit,
    (c.numberFrom k).mapNumbers (fun _ => ()) = c
  | .inline c => congrArg ParagraphItem.inline (c.mapNumbers_numberFrom k)
  | .table t => congrArg ParagraphItem.table (t.mapNumbers_numberFrom k)
  | .listing _ => rfl

theorem mapNumbers_numberParagraphItems (k : Nat) (content : List (ParagraphItem Unit)) :
    (numberParagraphItems k content).map (ParagraphItem.mapNumbers fun _ => ()) = content := by
  rw [numberParagraphItems, map_walk ParagraphItem.mapNumbers_numberFrom, List.map_id']

theorem FormalContent.mapNumbers_numberFrom (k : Nat) : ∀ c : FormalContent Unit,
    (c.numberFrom k).mapNumbers (fun _ => ()) = c
  | .listing _ => rfl
  | .image _ => rfl
  | .list l => congrArg FormalContent.list (l.mapNumbers_numberFrom k)
  | .table t => congrArg FormalContent.table (t.mapNumbers_numberFrom k)
  | .verbatim _ => rfl

/-! ### The walk with the sequence -/

namespace Footnotes

/-- The sequence with more footnotes at its end. -/
def extend (f : Footnotes) (notes : List NumberedNote) : Footnotes := ⟨f.notes ++ notes.toArray⟩

theorem toList_extend (f : Footnotes) (notes : List NumberedNote) :
    (f.extend notes).toList = f.toList ++ notes := by
  rw [toList, toList, extend, Array.toList_append]

theorem size_extend (f : Footnotes) (notes : List NumberedNote) :
    (f.extend notes).size = f.size + notes.length := by
  simp only [size, extend, Array.size_append, List.size_toArray]

theorem extend_nil (f : Footnotes) : f.extend [] = f := by
  rw [extend, Array.append_empty]

theorem extend_extend (f : Footnotes) (l r : List NumberedNote) :
    (f.extend l).extend r = f.extend (l ++ r) := by
  simp only [extend, Array.append_assoc, List.append_toArray]

theorem append_eq (f : Footnotes) (content : List (Inline FootnoteNumber)) :
    f.append content = (⟨f.size, content⟩, f.extend [⟨f.size, content⟩]) := rfl

/-- What was added is what comes after the mark. -/
theorem since_extend (f : Footnotes) (notes : List NumberedNote) :
    (f.extend notes).since f.size = notes := by
  simp [since, extend, size]

end Footnotes

mutual

theorem Inline.enumerate_eq (notes : Footnotes) : ∀ c : Inline Unit,
    c.enumerate notes =
      (c.numberFrom notes.size, notes.extend (c.numberFrom notes.size).notes)
  | .text _ => congrArg (Prod.mk _) notes.extend_nil.symm
  | .term _ => congrArg (Prod.mk _) notes.extend_nil.symm
  | .link _ => congrArg (Prod.mk _) notes.extend_nil.symm
  | .image _ => congrArg (Prod.mk _) notes.extend_nil.symm
  | .list l => by
      rw [Inline.enumerate, ItemList.enumerate_eq notes l]
      rfl
  | .footnote n => by
      rw [Inline.enumerate, Footnote.enumerate_eq notes n]
      rfl
  | .verbatim _ => congrArg (Prod.mk _) notes.extend_nil.symm

theorem ItemList.enumerate_eq (notes : Footnotes) : ∀ l : ItemList Unit,
    l.enumerate notes =
      (l.numberFrom notes.size, notes.extend (l.numberFrom notes.size).notes)
  | ⟨_, _, items⟩ => by
      rw [ItemList.enumerate, enumerateItems_eq notes items]
      rfl

theorem enumerateItems_eq (notes : Footnotes) : ∀ items : List (ListItem Unit),
    enumerateItems items notes =
      (numberItems notes.size items, notes.extend (notesOfItems (numberItems notes.size items)))
  | [] => congrArg (Prod.mk _) notes.extend_nil.symm
  | item :: rest => by
      rw [enumerateItems, ListItem.enumerate_eq notes item]
      simp only []
      rw [enumerateItems_eq _ rest, Footnotes.size_extend,
        length_of_number (ListItem.number_notes _ item), Footnotes.extend_extend]
      rfl

theorem ListItem.enumerate_eq (notes : Footnotes) : ∀ item : ListItem Unit,
    item.enumerate notes =
      (item.numberFrom notes.size, notes.extend (item.numberFrom notes.size).notes)
  | ⟨_, content⟩ => by
      rw [ListItem.enumerate, enumerateInlines_eq notes content]
      rfl

/-- The content is numbered first, and its footnotes are in the sequence when the footnote
    itself is added. -/
theorem Footnote.enumerate_eq (notes : Footnotes) : ∀ n : Footnote Unit,
    n.enumerate notes =
      (n.numberFrom notes.size, notes.extend (n.numberFrom notes.size).notes)
  | ⟨_, content⟩ => by
      rw [Footnote.enumerate, enumerateInlines_eq notes content]
      simp only []
      rw [Footnotes.append_eq, Footnotes.size_extend,
        length_of_number (number_notesOfInlines _ content), Footnotes.extend_extend]
      rfl

theorem enumerateInlines_eq (notes : Footnotes) : ∀ cs : List (Inline Unit),
    enumerateInlines cs notes =
      (numberInlines notes.size cs, notes.extend (notesOfInlines (numberInlines notes.size cs)))
  | [] => congrArg (Prod.mk _) notes.extend_nil.symm
  | c :: rest => by
      rw [enumerateInlines, Inline.enumerate_eq notes c]
      simp only []
      rw [enumerateInlines_eq _ rest, Footnotes.size_extend,
        length_of_number (Inline.number_notes _ c), Footnotes.extend_extend]
      rfl

end

/-- Passing the sequence from element to element is a walk with its size, if each step is. -/
theorem enumerateEach_eq {α β : Type} (step : α → Footnotes → β × Footnotes)
    {run : List α → Footnotes → List β × Footnotes} {f : Nat → α → β}
    {held : α → List (Footnote Unit)} {numbered : β → List NumberedNote}
    (hnil : ∀ notes, run [] notes = ([], notes))
    (hcons : ∀ x rest notes, run (x :: rest) notes =
      ((step x notes).1 :: (run rest (step x notes).2).1, (run rest (step x notes).2).2))
    (hstep : ∀ notes x,
      step x notes = (f notes.size x, notes.extend (numbered (f notes.size x))))
    (hnumber : ∀ k x, (numbered (f k x)).map Footnote.number = List.range' k (held x).length)
    (notes : Footnotes) (xs : List α) :
    run xs notes =
      (walk (fun k x => k + (held x).length) f notes.size xs,
        notes.extend ((walk (fun k x => k + (held x).length) f notes.size xs).flatMap
          numbered)) := by
  induction xs generalizing notes with
  | nil => rw [hnil, walk, List.flatMap_nil, Footnotes.extend_nil]
  | cons x rest ih =>
      rw [hcons, hstep]
      simp only []
      rw [ih, Footnotes.size_extend, length_of_number (hnumber _ x), Footnotes.extend_extend]
      rfl

theorem enumerateRow_eq (notes : Footnotes) (row : Row Unit) :
    enumerateRow row notes =
      (numberRow notes.size row,
        notes.extend ((numberRow notes.size row).flatMap notesOfInlines)) :=
  enumerateEach_eq enumerateInlines (fun _ => rfl) (fun _ _ _ => rfl)
    enumerateInlines_eq number_notesOfInlines notes row

theorem enumerateRows_eq (notes : Footnotes) (rows : List (Row Unit)) :
    enumerateRows rows notes =
      (numberRows notes.size rows,
        notes.extend ((numberRows notes.size rows).flatMap (·.flatMap notesOfInlines))) :=
  enumerateEach_eq enumerateRow (fun _ => rfl) (fun _ _ _ => rfl)
    enumerateRow_eq number_notesOfRow notes rows

theorem Table.enumerate_eq (notes : Footnotes) (t : Table Unit) :
    t.enumerate notes =
      (t.numberFrom notes.size, notes.extend (t.numberFrom notes.size).notes) := by
  rw [Table.enumerate, enumerateRows_eq]
  rfl

theorem ParagraphItem.enumerate_eq (notes : Footnotes) : ∀ c : ParagraphItem Unit,
    c.enumerate notes =
      (c.numberFrom notes.size, notes.extend (c.numberFrom notes.size).notes)
  | .inline c => by
      rw [ParagraphItem.enumerate, c.enumerate_eq]
      rfl
  | .table t => by
      rw [ParagraphItem.enumerate, t.enumerate_eq]
      rfl
  | .listing _ => congrArg (Prod.mk _) notes.extend_nil.symm

theorem enumerateParagraphItems_eq (notes : Footnotes) (content : List (ParagraphItem Unit)) :
    enumerateParagraphItems content notes =
      (numberParagraphItems notes.size content,
        notes.extend ((numberParagraphItems notes.size content).flatMap ParagraphItem.notes)) :=
  enumerateEach_eq ParagraphItem.enumerate (fun _ => rfl) (fun _ _ _ => rfl)
    ParagraphItem.enumerate_eq ParagraphItem.number_notes notes content

theorem FormalContent.enumerate_eq (notes : Footnotes) : ∀ c : FormalContent Unit,
    c.enumerate notes =
      (c.numberFrom notes.size, notes.extend (c.numberFrom notes.size).notes)
  | .listing _ => congrArg (Prod.mk _) notes.extend_nil.symm
  | .image _ => congrArg (Prod.mk _) notes.extend_nil.symm
  | .list l => by
      rw [FormalContent.enumerate, l.enumerate_eq]
      rfl
  | .table t => by
      rw [FormalContent.enumerate, t.enumerate_eq]
      rfl
  | .verbatim _ => congrArg (Prod.mk _) notes.extend_nil.symm

end Manuscript
