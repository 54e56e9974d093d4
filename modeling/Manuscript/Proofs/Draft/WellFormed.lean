import Manuscript.Draft.WellFormed

/-!
# Lists that Hold Something

The lists of a draft that may not be empty, one after the other, and what the
check of a draft makes of them. It passes if none of them is empty, and
otherwise it reports the first that is.

`Draft.Document.requiredLists` puts the lists in the order in which a reader of
the draft comes to them, each before what it holds. A list is named by the words
of the message that reports it. Only lists that have to hold something are in
it; what list items, rows, cells and links hold is passed over, although a list
may stand in an item or a cell, and then it is listed itself.

The check is made of steps that either pass or end it. `Reports` is what is
shown of each step, and a step after another one reports what is listed after
the lists of the first, `Reports.bind`.

## Main definitions

* `RequiredList`: A list that has to hold something.
* `Inline.requiredLists`, `Draft.Document.requiredLists`: The lists of content and of a draft.
* `Reports`: A check finds the first empty list.

## Theorems

* `Reports.bind`, `Reports.forM`: Checks one after the other.
* `Inline.reports_check`: The check of inline content at any depth.
* `Draft.Document.check_first_empty`: The check of a draft.
-/

namespace Manuscript

/-- A list that has to hold something, in the words of a message about it. -/
structure RequiredList where
  /-- What the list holds. -/
  element : String
  /-- What directly holds the list. -/
  context : String
  length : Nat

/-- Whether the list holds nothing, as it may not. -/
def RequiredList.isEmpty (l : RequiredList) : Bool := l.length = 0

/-! ### The lists of content -/

variable {ν : Type}

mutual

/-- The lists within inline content. -/
def Inline.requiredLists : Inline ν → List RequiredList
  | .text _ => []
  | .term _ => []
  | .link _ => []
  | .image _ => []
  | .list l => l.requiredLists "inline content"
  | .footnote n => n.requiredLists
  | .verbatim _ => []

/-- The items of a list, and then the lists within them. -/
def ItemList.requiredLists (context : String) : ItemList ν → List RequiredList
  | ⟨_, _, items⟩ => ⟨"list item", context, items.length⟩ :: requiredListsOfItems items

def requiredListsOfItems : List (ListItem ν) → List RequiredList
  | [] => []
  | item :: rest => item.requiredLists ++ requiredListsOfItems rest

def ListItem.requiredLists : ListItem ν → List RequiredList
  | ⟨_, content⟩ => requiredListsOfInlines content

/-- The content of a footnote, and then the lists within it. -/
def Footnote.requiredLists : Footnote ν → List RequiredList
  | ⟨_, content⟩ => ⟨"content", "footnote", content.length⟩ :: requiredListsOfInlines content

def requiredListsOfInlines : List (Inline ν) → List RequiredList
  | [] => []
  | c :: rest => c.requiredLists ++ requiredListsOfInlines rest

end

/-- The rows of a table, and then the lists within its cells. -/
def Table.requiredLists (context : String) (t : Table ν) : List RequiredList :=
  ⟨"table row", context, t.body.length⟩ :: t.body.flatMap (·.flatMap requiredListsOfInlines)

/-- The lists of a paragraph's content. The paragraph itself holds those that stand directly in
    it. -/
def ParagraphItem.requiredLists : ParagraphItem ν → List RequiredList
  | .inline (.list l) => l.requiredLists "paragraph"
  | .inline c => c.requiredLists
  | .table t => t.requiredLists "paragraph"
  | .listing _ => []

def FormalContent.requiredLists (context : String) : FormalContent ν → List RequiredList
  | .listing _ => []
  | .image _ => []
  | .list l => l.requiredLists context
  | .table t => t.requiredLists context
  | .verbatim _ => []

/-! ### The lists of a draft -/

namespace Draft

def Block.requiredLists : Block → List RequiredList
  | .paragraph p =>
    ⟨"content", "paragraph", p.content.length⟩ :: p.content.flatMap ParagraphItem.requiredLists
  | .formalItem f => f.content.requiredLists ("formal item '" ++ f.title ++ "'")

def Subsection.requiredLists (s : Subsection) : List RequiredList :=
  ⟨"content", "subsection '" ++ s.title ++ "'", s.content.length⟩ ::
    s.content.flatMap Block.requiredLists

def Section.requiredLists (s : Section) : List RequiredList :=
  match s.body with
  | .content blocks =>
    ⟨"content", "section '" ++ s.title ++ "'", blocks.length⟩ ::
      blocks.flatMap Block.requiredLists
  | .subsections divisions =>
    ⟨"subsection", "section '" ++ s.title ++ "'", divisions.length⟩ ::
      divisions.flatMap Subsection.requiredLists

def Part.requiredLists (p : Part) : List RequiredList :=
  ⟨"section", "part '" ++ p.title ++ "'", p.sections.length⟩ ::
    p.sections.flatMap Section.requiredLists

/-- Every list of a draft that has to hold something, each before what it holds. -/
def Document.requiredLists (d : Document) : List RequiredList :=
  match d.body with
  | .parts divisions =>
    ⟨"part", "document '" ++ d.title ++ "'", divisions.length⟩ ::
      divisions.flatMap Part.requiredLists
  | .sections divisions =>
    ⟨"section", "document '" ++ d.title ++ "'", divisions.length⟩ ::
      divisions.flatMap Section.requiredLists

end Draft

/-! ### Checks that report the first empty list -/

/-- What a check has to come to for some lists: it passes if none of them is empty, and it fails
    with the words for the first that is. -/
inductive Reports : Except EmptyList Unit → List RequiredList → Prop where
  | passes {lists : List RequiredList} (hnone : lists.find? RequiredList.isEmpty = none) :
      Reports (.ok ()) lists
  | fails {lists : List RequiredList} {l : RequiredList} {e : EmptyList}
      (hfirst : lists.find? RequiredList.isEmpty = some l) (hmissing : e.missing.name = l.element)
      (hholder : e.holder.phrase = l.context) : Reports (.error e) lists

namespace Reports

theorem nothing : Reports (.ok ()) [] := passes rfl

theorem requireSome {α : Type} (missing : Missing) (holder : Holder) (items : List α) :
    Reports (requireSome missing holder items)
      [⟨missing.name, holder.phrase, items.length⟩] := by
  cases items with
  | nil => exact fails rfl rfl rfl
  | cons x rest => exact passes rfl

/-- A check that is made after another one. -/
theorem bind {x y : Except EmptyList Unit} {l r : List RequiredList} (hx : Reports x l)
    (hy : Reports y r) : Reports (x >>= fun _ => y) (l ++ r) := by
  cases hx with
  | fails hfirst hmissing hholder =>
      -- The first check has failed, and the second one is not made.
      refine fails ?_ hmissing hholder
      rw [List.find?_append, hfirst, Option.some_or]
  | passes hnone =>
      have hrest : (l ++ r).find? RequiredList.isEmpty = r.find? RequiredList.isEmpty := by
        rw [List.find?_append, hnone, Option.none_or]
      cases hy with
      | passes hnone => exact passes (hrest.trans hnone)
      | fails hfirst hmissing hholder => exact fails (hrest.trans hfirst) hmissing hholder

theorem forM {α : Type} {check : α → Except EmptyList Unit} {lists : α → List RequiredList}
    (h : ∀ x, Reports (check x) (lists x)) (xs : List α) :
    Reports (xs.forM check) (xs.flatMap lists) := by
  induction xs with
  | nil => exact nothing
  | cons x rest ih => exact (h x).bind ih

end Reports

/-! ### Checks of content -/

mutual

theorem Inline.reports_check : ∀ c : Inline ν, Reports c.check c.requiredLists
  | .text _ => Reports.nothing
  | .term _ => Reports.nothing
  | .link _ => Reports.nothing
  | .image _ => Reports.nothing
  | .list l => ItemList.reports_check .inlineContent l
  | .footnote n => Footnote.reports_check n
  | .verbatim _ => Reports.nothing

theorem ItemList.reports_check (holder : Holder) : ∀ l : ItemList ν,
    Reports (l.check holder) (l.requiredLists holder.phrase)
  | ⟨_, _, items⟩ => (Reports.requireSome .listItem holder items).bind (reports_checkItems items)

theorem reports_checkItems : ∀ items : List (ListItem ν),
    Reports (checkItems items) (requiredListsOfItems items)
  | [] => Reports.nothing
  | item :: rest => (ListItem.reports_check item).bind (reports_checkItems rest)

theorem ListItem.reports_check : ∀ item : ListItem ν, Reports item.check item.requiredLists
  | ⟨_, content⟩ => reports_checkInlines content

theorem Footnote.reports_check : ∀ n : Footnote ν, Reports n.check n.requiredLists
  | ⟨_, content⟩ =>
      (Reports.requireSome .content .footnote content).bind (reports_checkInlines content)

theorem reports_checkInlines : ∀ cs : List (Inline ν),
    Reports (checkInlines cs) (requiredListsOfInlines cs)
  | [] => Reports.nothing
  | c :: rest => (Inline.reports_check c).bind (reports_checkInlines rest)

end

theorem Table.reports_check (holder : Holder) (t : Table ν) :
    Reports (t.check holder) (t.requiredLists holder.phrase) :=
  (Reports.requireSome .tableRow holder t.body).bind
    (Reports.forM (fun row => Reports.forM reports_checkInlines row) t.body)

theorem ParagraphItem.reports_check (c : ParagraphItem ν) : Reports c.check c.requiredLists := by
  cases c with
  | table t => exact t.reports_check .paragraph
  | listing kind => exact Reports.nothing
  | inline c =>
      -- A list that stands directly in a paragraph is placed otherwise than one further in.
      cases c with
      | list l => exact l.reports_check .paragraph
      | text t => exact Reports.nothing
      | term t => exact Reports.nothing
      | link l => exact Reports.nothing
      | image i => exact Reports.nothing
      | footnote n => exact n.reports_check
      | verbatim v => exact Reports.nothing

theorem FormalContent.reports_check (holder : Holder) (c : FormalContent ν) :
    Reports (c.check holder) (c.requiredLists holder.phrase) := by
  cases c with
  | listing kind => exact Reports.nothing
  | image i => exact Reports.nothing
  | list l => exact l.reports_check holder
  | table t => exact t.reports_check holder
  | verbatim v => exact Reports.nothing

/-! ### Checks of drafts -/

namespace Draft

theorem Block.reports_check (b : Block) : Reports b.check b.requiredLists := by
  cases b with
  | paragraph p =>
      exact (Reports.requireSome .content .paragraph p.content).bind
        (Reports.forM ParagraphItem.reports_check p.content)
  | formalItem f => exact f.content.reports_check (.formalItem f.title)

theorem Subsection.reports_check (s : Subsection) : Reports s.check s.requiredLists :=
  (Reports.requireSome .content (.subsect s.title) s.content).bind
    (Reports.forM Block.reports_check s.content)

theorem Section.reports_check (s : Section) : Reports s.check s.requiredLists := by
  unfold check requiredLists
  cases s.body with
  | content blocks =>
      exact (Reports.requireSome .content (.sect s.title) blocks).bind
        (Reports.forM Block.reports_check blocks)
  | subsections divisions =>
      exact (Reports.requireSome .subsect (.sect s.title) divisions).bind
        (Reports.forM Subsection.reports_check divisions)

theorem Part.reports_check (p : Part) : Reports p.check p.requiredLists :=
  (Reports.requireSome .sect (.part p.title) p.sections).bind
    (Reports.forM Section.reports_check p.sections)

theorem Document.reports_check (d : Document) : Reports d.check d.requiredLists := by
  unfold check requiredLists
  cases d.body with
  | parts divisions =>
      exact (Reports.requireSome .part (.document d.title) divisions).bind
        (Reports.forM Part.reports_check divisions)
  | sections divisions =>
      exact (Reports.requireSome .sect (.document d.title) divisions).bind
        (Reports.forM Section.reports_check divisions)

/-- A draft passes the check if and only if none of its lists is empty that has to hold something.
    Otherwise the first of these is reported, by the words for what it holds and for where it
    stands. -/
theorem Document.check_first_empty (d : Document) :
    (d.check = .ok () ↔ ∀ l ∈ d.requiredLists, l.length ≠ 0) ∧
      ∀ l, d.requiredLists.find? RequiredList.isEmpty = some l →
        ∃ e, d.check = .error e ∧ e.missing.name = l.element ∧ e.holder.phrase = l.context := by
  have hall : d.requiredLists.find? RequiredList.isEmpty = none ↔
      ∀ l ∈ d.requiredLists, l.length ≠ 0 := by
    rw [List.find?_eq_none]
    simp only [RequiredList.isEmpty, decide_eq_true_eq, ne_eq]
  have hreports := d.reports_check
  rw [← hall]
  -- The two outcomes exclude each other, as the first empty list is there or not.
  cases hcheck : d.check with
  | ok u =>
      rw [hcheck] at hreports
      cases hreports with
      | passes hnone =>
          refine ⟨⟨fun _ => hnone, fun _ => rfl⟩, fun l hl => ?_⟩
          rw [hnone] at hl
          cases hl
  | error e =>
      rw [hcheck] at hreports
      cases hreports with
      | fails hfirst hmissing hholder =>
          refine ⟨⟨fun h => (by cases h), fun h => ?_⟩, fun l hl => ?_⟩
          · rw [hfirst] at h
            cases h
          · rw [hfirst] at hl
            cases hl
            exact ⟨e, rfl, hmissing, hholder⟩

/-- The list in the cell comes before the empty footnote after the table. -/
example : (Block.paragraph ⟨none, none,
    [.table ⟨"Sums", none, [[], [[], [.footnote ⟨(), [.list ⟨.ordered, none, []⟩]⟩]]]⟩,
      .inline (.footnote ⟨(), []⟩)]⟩).check = .error ⟨.listItem, .inlineContent⟩ := by
  rfl

end Draft

end Manuscript
