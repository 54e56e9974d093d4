import Manuscript.Numbered.PlainText
import Manuscript.Proofs.Text.Blank

/-!
# Words of Plain Text

Plain text has the words of the content and nothing else. The content comes
down to its leaves, the texts that it shows, in the order of the document. What
is written is built up in front of them: whether a leaf is set off by a space
depends on what was written before it, which may be nothing, or end in blanks,
or consist of them.

The words do not depend on that. Whatever was written before, adding a leaf adds
the words of the leaf, because the space that is put in front cuts them off, and
where it is missing there is nothing in front. So the leaves may be written in
any surroundings, and the words of the plain text are those of the leaves one
after the other.

## Main definitions

* `Inline.leaves`, `Table.leaves`: The texts that content shows.
* `Paragraph.leaves`, `Footnote.leaves`: Those of a paragraph or a footnote.
* `Text.IsJoined`: A text made of the words of leaves.

## Theorems

* `Inline.write_eq`: Writing content is adding its leaves.
* `runs_pushText`: Adding a leaf adds its words.
* `Text.isJoined_normalizeSpace`: Narrowing the blanks joins the words.
* `plainText_isJoined`: The plain text of paragraphs and footnotes.
-/

namespace Manuscript

/-! ### Leaves -/

/-- The text that a piece of a link shows. -/
def LinkItem.leaf : LinkItem → String
  | text t => t
  | image i => i.text

mutual

/-- The texts that inline content shows, in document order. A footnote shows its number in brackets
    and nothing of what it holds. -/
def Inline.leaves : Inline FootnoteNumber → List String
  | .text t => [t]
  | .term t => [t.text]
  | .link l => l.content.map LinkItem.leaf
  | .image i => [i.text]
  | .list l => l.leaves
  | .footnote n => ["[" ++ toString n.number ++ "]"]
  | .verbatim v => [v.text]

def ItemList.leaves : ItemList FootnoteNumber → List String
  | ⟨_, _, items⟩ => leavesOfItems items

def leavesOfItems : List (ListItem FootnoteNumber) → List String
  | [] => []
  | item :: rest => item.leaves ++ leavesOfItems rest

def ListItem.leaves : ListItem FootnoteNumber → List String
  | ⟨_, content⟩ => leavesOfInlines content

def leavesOfInlines : List (Inline FootnoteNumber) → List String
  | [] => []
  | c :: rest => c.leaves ++ leavesOfInlines rest

end

/-- The texts that the cells of a table show, row by row. -/
def Table.leaves (t : Table FootnoteNumber) : List String :=
  t.body.flatMap fun row => row.flatMap leavesOfInlines

def ParagraphItem.leaves : ParagraphItem FootnoteNumber → List String
  | .inline c => c.leaves
  | .table t => t.leaves
  | .listing _ => []

/-- The texts that a paragraph shows, in document order. -/
def Paragraph.leaves (p : Paragraph) : List String := p.content.flatMap ParagraphItem.leaves

/-- The texts that the content of a footnote shows, in document order. -/
def Footnote.leaves (n : NumberedNote) : List String := leavesOfInlines n.content

/-! ### Writing -/

/-- Writing things one after the other adds the leaves of all of them, if writing one adds its
    own. -/
theorem foldl_write_eq {α : Type} {write : String → α → String} {leaves : α → List String}
    (h : ∀ x out, write out x = (leaves x).foldl pushText out) (xs : List α) (out : String) :
    xs.foldl write out = (xs.flatMap leaves).foldl pushText out := by
  induction xs generalizing out with
  | nil => rfl
  | cons x rest ih => rw [List.foldl_cons, List.flatMap_cons, List.foldl_append, ← h, ih]

theorem LinkItem.write_eq (out : String) (item : LinkItem) :
    item.write out = pushText out item.leaf := by
  cases item <;> rfl

mutual

theorem Inline.write_eq (out : String) : ∀ c : Inline FootnoteNumber,
    c.write out = c.leaves.foldl pushText out
  | .text _ => rfl
  | .term _ => rfl
  | .link l => by
      rw [Inline.write, Inline.leaves, List.foldl_map]
      exact congrArg (List.foldl · out l.content) (funext₂ LinkItem.write_eq)
  | .image _ => rfl
  | .list l => ItemList.write_eq out l
  | .footnote _ => rfl
  | .verbatim _ => rfl

theorem ItemList.write_eq (out : String) : ∀ l : ItemList FootnoteNumber,
    l.write out = l.leaves.foldl pushText out
  | ⟨_, _, items⟩ => writeItems_eq out items

theorem writeItems_eq (out : String) : ∀ items : List (ListItem FootnoteNumber),
    writeItems out items = (leavesOfItems items).foldl pushText out
  | [] => rfl
  | item :: rest => by
      rw [writeItems, leavesOfItems, List.foldl_append, ListItem.write_eq out item,
        writeItems_eq _ rest]

theorem ListItem.write_eq (out : String) : ∀ item : ListItem FootnoteNumber,
    item.write out = item.leaves.foldl pushText out
  | ⟨_, content⟩ => writeInlines_eq out content

theorem writeInlines_eq (out : String) : ∀ cs : List (Inline FootnoteNumber),
    writeInlines out cs = (leavesOfInlines cs).foldl pushText out
  | [] => rfl
  | c :: rest => by
      rw [writeInlines, leavesOfInlines, List.foldl_append, Inline.write_eq out c,
        writeInlines_eq _ rest]

end

theorem Table.write_eq (out : String) (t : Table FootnoteNumber) :
    t.write out = t.leaves.foldl pushText out :=
  foldl_write_eq (fun row => foldl_write_eq (fun cs out => writeInlines_eq out cs) row) t.body out

theorem ParagraphItem.write_eq (out : String) (c : ParagraphItem FootnoteNumber) :
    c.write out = c.leaves.foldl pushText out := by
  cases c with
  | inline c => exact Inline.write_eq out c
  | table t => exact Table.write_eq out t
  | listing kind => rfl

/-! ### Words -/

/-- Whatever is written already, adding a leaf adds its words. -/
theorem runs_pushText (out leaf : String) :
    Text.runs (pushText out leaf).toList = Text.runs out.toList ++ Text.runs leaf.toList := by
  unfold pushText
  split
  case isTrue hempty =>
    -- There are no words yet that those of the leaf could run into.
    rw [String.isEmpty_iff.mp hempty]
    rfl
  case isFalse =>
    rw [String.toList_append, String.toList_append, List.append_assoc]
    exact Text.runs_append_blank out.toList leaf.toList (by decide)

theorem runs_foldl_pushText (leaves : List String) (out : String) :
    Text.runs (leaves.foldl pushText out).toList =
      Text.runs out.toList ++ leaves.flatMap fun leaf => Text.runs leaf.toList := by
  induction leaves generalizing out with
  | nil => exact (List.append_nil _).symm
  | cons leaf rest ih =>
      rw [List.foldl_cons, ih, runs_pushText, List.append_assoc, List.flatMap_cons]

/-- A text that is made of the words of leaves. -/
structure Text.IsJoined (leaves : List String) (text : String) : Prop where
  /-- It has the words of all leaves in order, joined by single spaces. -/
  toList_eq : text.toList = unwords (leaves.flatMap fun leaf => runs leaf.toList)
  /-- Its own words are the same, so those of different leaves do not merge. -/
  runs_eq : runs text.toList = leaves.flatMap fun leaf => runs leaf.toList
  /-- Wherever a blank leaf stands, the others make the same text without it. -/
  blank : ∀ before leaf after, leaves = before ++ leaf :: after → IsGap leaf.toList →
    text.toList = unwords ((before ++ after).flatMap fun leaf => runs leaf.toList)
  spaced : Spaced text.toList
  normal : normalizeSpace text = text

/-- What is written for leaves becomes their words when its blanks are narrowed. -/
theorem Text.isJoined_normalizeSpace {leaves : List String} {written : String}
    (h : written = leaves.foldl pushText "") : IsJoined leaves (normalizeSpace written) := by
  have hruns : runs written.toList = leaves.flatMap fun leaf => runs leaf.toList := by
    rw [h, runs_foldl_pushText]
    rfl
  have hwords : ∀ w ∈ leaves.flatMap fun leaf => runs leaf.toList, IsWord w ∧ w ≠ [] := by
    rw [← hruns]
    exact fun _ => isWord_of_mem_runs
  have htext : (normalizeSpace written).toList =
      unwords (leaves.flatMap fun leaf => runs leaf.toList) := by
    rw [toList_normalizeSpace, hruns]
  have hsame : runs (normalizeSpace written).toList =
      leaves.flatMap fun leaf => runs leaf.toList := by
    rw [htext, runs_unwords hwords]
  refine ⟨htext, hsame, ?_, ?_, String.toList_inj.mp ?_⟩
  · -- A blank leaf has no words.
    rintro before leaf after rfl hgap
    rw [htext, List.flatMap_append, List.flatMap_cons, runs_of_isGap hgap, List.nil_append,
      ← List.flatMap_append]
  · rw [htext]
    exact spaced_unwords hwords
  · rw [toList_normalizeSpace, hsame, htext]

/-- The plain text of paragraphs and of footnotes is made of the words of what they show. -/
theorem plainText_isJoined :
    (∀ p : Paragraph, Text.IsJoined p.leaves p.plainText) ∧
      ∀ n : NumberedNote, Text.IsJoined n.leaves n.plainText := by
  constructor
  · intro p
    exact Text.isJoined_normalizeSpace
      (foldl_write_eq (fun c out => ParagraphItem.write_eq out c) p.content "")
  · intro n
    exact Text.isJoined_normalizeSpace (writeInlines_eq "" n.content)

example : Footnote.plainText ⟨1, [.text "see  also\n", .footnote ⟨0, [.text "inner"]⟩]⟩ =
    "see also [0]" := by
  decide +kernel

end Manuscript
