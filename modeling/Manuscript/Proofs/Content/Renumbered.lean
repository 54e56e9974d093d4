import Manuscript.Proofs.Content.Numbered

/-!
# Renumbered Content

Content that is numbered from another count on. It is the same content with
every number moved by the difference, at whatever depth the number stands. So
the footnotes that come before a piece of content take part in its numbers as a
single summand, and subtracting that summand leaves what the content is by
itself.

`Renumbers` says of a function on numbers that it goes along with such a
change. Adding is one instance and subtracting is another, and both need the
same induction over the content. Each piece starts to count where the one
before it ended, and the two counts stay equally far apart.

## Main definitions

* `Renumbers`: A function that turns counting from one number into counting from another.

## Theorems

* `renumbers_add`, `renumbers_sub`: Adding and subtracting what came before.
* `Inline.renumber_numberFrom`: Counting from another number on changes the numbers of content.
* `Table.renumber_numberFrom`, `FormalContent.renumber_numberFrom`: The same for other content.
-/

namespace Manuscript

/-- Counting from `k` on becomes counting from `l` on. -/
def Renumbers (f : FootnoteNumber → FootnoteNumber) (k l : Nat) : Prop := ∀ n, f (k + n) = l + n

namespace Renumbers

variable {f : FootnoteNumber → FootnoteNumber} {k l : Nat}

/-- After the same number of footnotes the two counts are as far apart as before. -/
theorem add (h : Renumbers f k l) (m : Nat) : Renumbers f (k + m) (l + m) := by
  intro n
  rw [Nat.add_assoc, h, Nat.add_assoc]

theorem apply (h : Renumbers f k l) : f k = l := h 0

/-- Lists that are counted through, if each of their elements changes with the count. -/
theorem map_walk {α β : Type} {held : α → Nat} {number : Nat → α → β} {g : β → β}
    (hg : ∀ k l x, Renumbers f k l → g (number k x) = number l x) (h : Renumbers f k l)
    (xs : List α) :
    (walk (fun k x => k + held x) number k xs).map g = walk (fun k x => k + held x) number l xs :=
  map_walk_of_related hg (fun _ _ x h => h.add (held x)) h xs

end Renumbers

theorem renumbers_add (j k : Nat) : Renumbers (j + ·) k (j + k) :=
  fun n => (Nat.add_assoc j k n).symm

theorem renumbers_sub (k : Nat) : Renumbers (· - k) k 0 := by
  intro n
  exact (Nat.add_sub_cancel_left k n).trans (Nat.zero_add n).symm

section

variable {f : FootnoteNumber → FootnoteNumber}

mutual

theorem Inline.renumber_numberFrom {k l : Nat} (h : Renumbers f k l) : ∀ c : Inline Unit,
    (c.numberFrom k).mapNumbers f = c.numberFrom l
  | .text _ => rfl
  | .term _ => rfl
  | .link _ => rfl
  | .image _ => rfl
  | .list items => congrArg Inline.list (ItemList.renumber_numberFrom h items)
  | .footnote n => congrArg Inline.footnote (Footnote.renumber_numberFrom h n)
  | .verbatim _ => rfl

theorem ItemList.renumber_numberFrom {k l : Nat} (h : Renumbers f k l) : ∀ items : ItemList Unit,
    (items.numberFrom k).mapNumbers f = items.numberFrom l
  | ⟨style, type?, items⟩ => congrArg (ItemList.mk style type?) (renumber_numberItems h items)

theorem renumber_numberItems {k l : Nat} (h : Renumbers f k l) :
    ∀ items : List (ListItem Unit), mapItems f (numberItems k items) = numberItems l items
  | [] => rfl
  | item :: rest => by
      rw [numberItems, mapItems, ListItem.renumber_numberFrom h item,
        renumber_numberItems (h.add _) rest, numberItems]

theorem ListItem.renumber_numberFrom {k l : Nat} (h : Renumbers f k l) : ∀ item : ListItem Unit,
    (item.numberFrom k).mapNumbers f = item.numberFrom l
  | ⟨type?, content⟩ => congrArg (ListItem.mk type?) (renumber_numberInlines h content)

/-- The number of the footnote itself changes like those within it. -/
theorem Footnote.renumber_numberFrom {k l : Nat} (h : Renumbers f k l) : ∀ n : Footnote Unit,
    (n.numberFrom k).mapNumbers f = n.numberFrom l
  | ⟨_, content⟩ => by
      rw [Footnote.numberFrom, Footnote.mapNumbers, renumber_numberInlines h content,
        (h.add _).apply, Footnote.numberFrom]

theorem renumber_numberInlines {k l : Nat} (h : Renumbers f k l) :
    ∀ cs : List (Inline Unit), mapInlines f (numberInlines k cs) = numberInlines l cs
  | [] => rfl
  | c :: rest => by
      rw [numberInlines, mapInlines, Inline.renumber_numberFrom h c,
        renumber_numberInlines (h.add _) rest, numberInlines]

end

variable {k l : Nat} (h : Renumbers f k l)

include h

theorem renumber_numberRow (row : Row Unit) :
    (numberRow k row).map (mapInlines f) = numberRow l row :=
  Renumbers.map_walk (fun _ _ cell h => renumber_numberInlines h cell) h row

theorem Table.renumber_numberFrom (t : Table Unit) :
    (t.numberFrom k).mapNumbers f = t.numberFrom l := by
  have hbody : (numberRows k t.body).map (·.map (mapInlines f)) = numberRows l t.body :=
    Renumbers.map_walk (fun _ _ row h => renumber_numberRow h row) h t.body
  rw [Table.numberFrom, Table.mapNumbers, hbody, Table.numberFrom]

theorem ParagraphItem.renumber_numberFrom (c : ParagraphItem Unit) :
    (c.numberFrom k).mapNumbers f = c.numberFrom l := by
  cases c with
  | inline c => exact congrArg ParagraphItem.inline (c.renumber_numberFrom h)
  | table t => exact congrArg ParagraphItem.table (t.renumber_numberFrom h)
  | listing kind => rfl

theorem renumber_numberParagraphItems (content : List (ParagraphItem Unit)) :
    (numberParagraphItems k content).map (ParagraphItem.mapNumbers f) =
      numberParagraphItems l content :=
  Renumbers.map_walk (fun _ _ c h => c.renumber_numberFrom h) h content

theorem FormalContent.renumber_numberFrom (c : FormalContent Unit) :
    (c.numberFrom k).mapNumbers f = c.numberFrom l := by
  cases c with
  | listing kind => rfl
  | image i => rfl
  | list items => exact congrArg FormalContent.list (items.renumber_numberFrom h)
  | table t => exact congrArg FormalContent.table (t.renumber_numberFrom h)
  | verbatim v => rfl

end

end Manuscript
