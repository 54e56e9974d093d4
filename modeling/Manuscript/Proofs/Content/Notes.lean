import Manuscript.Content

/-!
# Footnotes within Content

The footnotes of a piece of content, in the order in which they are finished:
from the front, and each footnote after those within it. The order is the
same for drafts and for numbered content, so it is defined once, for content
with anything for its numbers.

Footnotes reach each other through lists, list items and further footnotes.
The functions follow that recursion; outside of it, in tables and paragraphs,
a footnote only stands in one place after another.

`mapNumbers` changes the numbers and nothing else. Erasing numbers and
shifting them are both instances of it, and `Inline.notes_mapNumbers` says
that it commutes with listing.

## Main definitions

* `Inline.notes`, `Table.notes`: The footnotes of content.
* `Inline.mapNumbers`: Content with other numbers.
* `Footnote.erase`: A footnote without numbers.
* `PostOrdered`: A list in which footnotes follow what they hold.

## Theorems

* `Inline.notes_mapNumbers`: Changing numbers changes them in the list.
* `PostOrdered.flatMap`: Listing one thing after the other keeps the order.
* `Inline.postOrdered_notes`: The footnotes of content are listed in this order.
-/

namespace Manuscript

variable {ν μ : Type}

mutual

/-- The footnotes of inline content. -/
def Inline.notes : Inline ν → List (Footnote ν)
  | .text _ => []
  | .term _ => []
  | .link _ => []
  | .image _ => []
  | .list l => l.notes
  | .footnote n => n.notes
  | .verbatim _ => []

def ItemList.notes : ItemList ν → List (Footnote ν)
  | ⟨_, _, items⟩ => notesOfItems items

def notesOfItems : List (ListItem ν) → List (Footnote ν)
  | [] => []
  | item :: rest => item.notes ++ notesOfItems rest

def ListItem.notes : ListItem ν → List (Footnote ν)
  | ⟨_, content⟩ => notesOfInlines content

/-- The footnotes within a footnote, and then the footnote itself. -/
def Footnote.notes : Footnote ν → List (Footnote ν)
  | ⟨number, content⟩ => notesOfInlines content ++ [⟨number, content⟩]

def notesOfInlines : List (Inline ν) → List (Footnote ν)
  | [] => []
  | c :: rest => c.notes ++ notesOfInlines rest

end

/-- The footnotes of a table, row by row and cell by cell. -/
def Table.notes (t : Table ν) : List (Footnote ν) := t.body.flatMap (·.flatMap notesOfInlines)

def ParagraphItem.notes : ParagraphItem ν → List (Footnote ν)
  | .inline c => c.notes
  | .table t => t.notes
  | .listing _ => []

def FormalContent.notes : FormalContent ν → List (Footnote ν)
  | .listing _ => []
  | .image _ => []
  | .list l => l.notes
  | .table t => t.notes
  | .verbatim _ => []

mutual

/-- Inline content with other numbers. -/
def Inline.mapNumbers (f : ν → μ) : Inline ν → Inline μ
  | .text t => .text t
  | .term t => .term t
  | .link l => .link l
  | .image i => .image i
  | .list l => .list (l.mapNumbers f)
  | .footnote n => .footnote (n.mapNumbers f)
  | .verbatim v => .verbatim v

def ItemList.mapNumbers (f : ν → μ) : ItemList ν → ItemList μ
  | ⟨style, type?, items⟩ => ⟨style, type?, mapItems f items⟩

def mapItems (f : ν → μ) : List (ListItem ν) → List (ListItem μ)
  | [] => []
  | item :: rest => item.mapNumbers f :: mapItems f rest

def ListItem.mapNumbers (f : ν → μ) : ListItem ν → ListItem μ
  | ⟨type?, content⟩ => ⟨type?, mapInlines f content⟩

/-- A footnote with another number, as those within it. -/
def Footnote.mapNumbers (f : ν → μ) : Footnote ν → Footnote μ
  | ⟨number, content⟩ => ⟨f number, mapInlines f content⟩

def mapInlines (f : ν → μ) : List (Inline ν) → List (Inline μ)
  | [] => []
  | c :: rest => c.mapNumbers f :: mapInlines f rest

end

def Table.mapNumbers (f : ν → μ) (t : Table ν) : Table μ :=
  ⟨t.summary, t.head?, t.body.map (·.map (mapInlines f))⟩

def ParagraphItem.mapNumbers (f : ν → μ) : ParagraphItem ν → ParagraphItem μ
  | .inline c => .inline (c.mapNumbers f)
  | .table t => .table (t.mapNumbers f)
  | .listing kind => .listing kind

def FormalContent.mapNumbers (f : ν → μ) : FormalContent ν → FormalContent μ
  | .listing kind => .listing kind
  | .image i => .image i
  | .list l => .list (l.mapNumbers f)
  | .table t => .table (t.mapNumbers f)
  | .verbatim v => .verbatim v

/-- A footnote as its draft has it, without a number and without numbers in it. -/
def Footnote.erase (n : Footnote ν) : Footnote Unit := n.mapNumbers fun _ => ()

mutual

theorem Inline.notes_mapNumbers (f : ν → μ) : ∀ c : Inline ν,
    (c.mapNumbers f).notes = c.notes.map (Footnote.mapNumbers f)
  | .text _ => rfl
  | .term _ => rfl
  | .link _ => rfl
  | .image _ => rfl
  | .list l => ItemList.notes_mapNumbers f l
  | .footnote n => Footnote.notes_mapNumbers f n
  | .verbatim _ => rfl

theorem ItemList.notes_mapNumbers (f : ν → μ) : ∀ l : ItemList ν,
    (l.mapNumbers f).notes = l.notes.map (Footnote.mapNumbers f)
  | ⟨_, _, items⟩ => notesOfItems_mapItems f items

theorem notesOfItems_mapItems (f : ν → μ) : ∀ items : List (ListItem ν),
    notesOfItems (mapItems f items) = (notesOfItems items).map (Footnote.mapNumbers f)
  | [] => rfl
  | item :: rest => by
      rw [mapItems, notesOfItems, notesOfItems, List.map_append,
        ListItem.notes_mapNumbers f item, notesOfItems_mapItems f rest]

theorem ListItem.notes_mapNumbers (f : ν → μ) : ∀ item : ListItem ν,
    (item.mapNumbers f).notes = item.notes.map (Footnote.mapNumbers f)
  | ⟨_, content⟩ => notesOfInlines_mapInlines f content

theorem Footnote.notes_mapNumbers (f : ν → μ) : ∀ n : Footnote ν,
    (n.mapNumbers f).notes = n.notes.map (Footnote.mapNumbers f)
  | ⟨number, content⟩ => by
      rw [Footnote.mapNumbers, Footnote.notes, Footnote.notes, List.map_append,
        notesOfInlines_mapInlines f content]
      rfl

theorem notesOfInlines_mapInlines (f : ν → μ) : ∀ cs : List (Inline ν),
    notesOfInlines (mapInlines f cs) = (notesOfInlines cs).map (Footnote.mapNumbers f)
  | [] => rfl
  | c :: rest => by
      rw [mapInlines, notesOfInlines, notesOfInlines, List.map_append,
        Inline.notes_mapNumbers f c, notesOfInlines_mapInlines f rest]

end

theorem Table.notes_mapNumbers (f : ν → μ) (t : Table ν) :
    (t.mapNumbers f).notes = t.notes.map (Footnote.mapNumbers f) := by
  rw [Table.notes, Table.notes, Table.mapNumbers, List.flatMap_map, List.map_flatMap]
  refine congrArg (List.flatMap · t.body) (funext fun row => ?_)
  rw [List.flatMap_map, List.map_flatMap]
  exact congrArg (List.flatMap · row) (funext fun cell => notesOfInlines_mapInlines f cell)

theorem ParagraphItem.notes_mapNumbers (f : ν → μ) : ∀ c : ParagraphItem ν,
    (c.mapNumbers f).notes = c.notes.map (Footnote.mapNumbers f)
  | .inline c => c.notes_mapNumbers f
  | .table t => t.notes_mapNumbers f
  | .listing _ => rfl

theorem FormalContent.notes_mapNumbers (f : ν → μ) : ∀ c : FormalContent ν,
    (c.mapNumbers f).notes = c.notes.map (Footnote.mapNumbers f)
  | .listing _ => rfl
  | .image _ => rfl
  | .list l => l.notes_mapNumbers f
  | .table t => t.notes_mapNumbers f
  | .verbatim _ => rfl

theorem Footnote.notes_eq (n : Footnote ν) : n.notes = notesOfInlines n.content ++ [n] := by
  cases n with
  | mk number content => rfl

/-- Right before each footnote of the list stand the footnotes within it. -/
def PostOrdered (notes : List (Footnote ν)) : Prop := ∀ n ∈ notes, n.notes <:+: notes

namespace PostOrdered

theorem nil : PostOrdered ([] : List (Footnote ν)) := fun _ h => absurd h List.not_mem_nil

theorem append {l r : List (Footnote ν)} (hl : PostOrdered l) (hr : PostOrdered r) :
    PostOrdered (l ++ r) := by
  intro n hn
  rcases List.mem_append.mp hn with h | h
  · exact (hl n h).trans (List.prefix_append l r).isInfix
  · exact (hr n h).trans (List.suffix_append l r).isInfix

theorem flatMap {α : Type} {xs : List α} {f : α → List (Footnote ν)}
    (h : ∀ x ∈ xs, PostOrdered (f x)) : PostOrdered (xs.flatMap f) := by
  intro n hn
  obtain ⟨x, hx, hnx⟩ := List.mem_flatMap.mp hn
  rw [List.flatMap_def]
  exact (h x hx n hnx).trans (List.infix_of_mem_flatten (List.mem_map_of_mem hx))

end PostOrdered

mutual

theorem Inline.postOrdered_notes : ∀ c : Inline ν, PostOrdered c.notes
  | .text _ => PostOrdered.nil
  | .term _ => PostOrdered.nil
  | .link _ => PostOrdered.nil
  | .image _ => PostOrdered.nil
  | .list l => ItemList.postOrdered_notes l
  | .footnote n => Footnote.postOrdered_notes n
  | .verbatim _ => PostOrdered.nil

theorem ItemList.postOrdered_notes : ∀ l : ItemList ν, PostOrdered l.notes
  | ⟨_, _, items⟩ => postOrdered_notesOfItems items

theorem postOrdered_notesOfItems : ∀ items : List (ListItem ν), PostOrdered (notesOfItems items)
  | [] => PostOrdered.nil
  | item :: rest => (ListItem.postOrdered_notes item).append (postOrdered_notesOfItems rest)

theorem ListItem.postOrdered_notes : ∀ item : ListItem ν, PostOrdered item.notes
  | ⟨_, content⟩ => postOrdered_notesOfInlines content

/-- The footnote at the end has the whole list before it, the others lie in its content. -/
theorem Footnote.postOrdered_notes : ∀ n : Footnote ν, PostOrdered n.notes
  | ⟨number, content⟩ => by
      intro m hm
      rw [Footnote.notes] at hm
      -- `m` stands in the content, or it is the footnote itself.
      rcases List.mem_append.mp hm with h | h
      · have hprefix : notesOfInlines content <+: (⟨number, content⟩ : Footnote ν).notes :=
          List.prefix_append _ _
        exact (postOrdered_notesOfInlines content m h).trans hprefix.isInfix
      · rcases List.mem_singleton.mp h with rfl
        exact List.infix_rfl

theorem postOrdered_notesOfInlines : ∀ cs : List (Inline ν), PostOrdered (notesOfInlines cs)
  | [] => PostOrdered.nil
  | c :: rest => (Inline.postOrdered_notes c).append (postOrdered_notesOfInlines rest)

end

theorem Table.postOrdered_notes (t : Table ν) : PostOrdered t.notes :=
  PostOrdered.flatMap fun _ _ => PostOrdered.flatMap fun cell _ => postOrdered_notesOfInlines cell

theorem ParagraphItem.postOrdered_notes : ∀ c : ParagraphItem ν, PostOrdered c.notes
  | .inline c => c.postOrdered_notes
  | .table t => t.postOrdered_notes
  | .listing _ => PostOrdered.nil

theorem FormalContent.postOrdered_notes : ∀ c : FormalContent ν, PostOrdered c.notes
  | .listing _ => PostOrdered.nil
  | .image _ => PostOrdered.nil
  | .list l => l.postOrdered_notes
  | .table t => t.postOrdered_notes
  | .verbatim _ => PostOrdered.nil

end Manuscript
