import Manuscript.Draft.Reading
import Manuscript.Proofs.Draft.Writing

/-!
# Drafts Read Back

A draft that was written as a tree of nodes is read as that draft, as long as the
collections in the tree are nested at most 128 deep. If they are nested more
deeply, reading fails with that, whatever the draft holds. So the one limit of
reading is the only thing that keeps a draft from being read back.

There is a lemma for each schema of the format, and it follows the schema: fields
in the order of the record, cases in the order of the variant.

The schema of inline content is unfolded once for each level of collections that
are left, and content that is nested more deeply cannot be read by it. This does
no harm, because a collection is entered at each level: where the schema ends,
the limit is reached as well. `Schema.Reads` with the number of unfoldings as the
bound says this, and the induction is on the content with any number.

## Theorems

* `Draft.Format.reads_inlines`: Inline content, with any number of unfoldings.
* `Draft.Format.reads_sect`: Sections with either body.
* `Draft.Format.reads_document`: Drafts.
* `Draft.Document.readTree_node`: A draft is read back, or it is nested too deeply.
-/

namespace Manuscript

namespace Draft

namespace Format

open Yaml

variable {bound : Nat} (hand : Hand)

/-- An optional text that is left out where there is none. -/
theorem written_text? {ρ : Type} {name : String} {rest : Fields ρ}
    {fields : List (String × Option Node)} {values : ρ} (s? : Option String)
    (hrest : rest.Written bound fields values) :
    (Fields.optional name .text rest).Written bound ((name, s?.map hand.text) :: fields)
      (s?, values) :=
  .optional hand.reads_text hand.isThere_text s? hrest

theorem written_word? {ρ : Type} {name : String} {rest : Fields ρ}
    {fields : List (String × Option Node)} {values : ρ} (w? : Option UInt32)
    (hrest : rest.Written bound fields values) :
    (Fields.optional name .word rest).Written bound ((name, w?.map .word) :: fields)
      (w?, values) :=
  .optional Schema.reads_word Node.isThere_word w? hrest

theorem reads_term (t : Term) : term.Reads bound (t.node hand) t := by
  refine Schema.reads_record hand (t.text, t.type?, ()) ?_ (by decide) rfl
  exact .entry (hand.reads_text t.text) (written_text? hand t.type? .nil)

theorem reads_image (i : Image) : image.Reads bound (i.node hand) i := by
  refine Schema.reads_record hand (i.uri, i.type?, i.width?, i.height?, i.text, ()) ?_
    (by decide) rfl
  refine .entry (hand.reads_text i.uri) (written_text? hand i.type? ?_)
  exact written_word? i.width? (written_word? i.height? (.entry (hand.reads_text i.text) .nil))

theorem reads_verbatim (v : Verbatim) : verbatim.Reads bound (v.node hand) v := by
  refine Schema.reads_record hand (v.text, v.type?, ()) ?_ (by decide) rfl
  exact .entry (hand.reads_text v.text) (written_text? hand v.type? .nil)

theorem reads_linkItem (c : LinkItem) : linkItem.Reads (bound + 1) (c.node hand) c := by
  cases c with
  | text s => exact Schema.reads_variant hand rfl (hand.reads_text s)
  | image i => exact Schema.reads_variant hand rfl (reads_image hand i)

theorem reads_linkOf (name : String) (l : Link) :
    (linkOf name l.reach).Reads bound (l.node hand) l := by
  have hitem : ∀ c : LinkItem, linkItem.Reads bound (c.node hand) c := fun c =>
    (reads_linkItem hand c).mono (Nat.le_succ bound)
  refine Schema.reads_record hand (l.target, l.content, ()) ?_ (by decide) rfl
  exact .entry (hand.reads_text l.target) (.entry (Schema.reads_map hitem l.content) .nil)

/-- The schema of links of one reach, with the name it has in the format. -/
def linkTo : LinkReach → Schema Link
  | .inside => link
  | .outside => linkExternal

theorem reads_link (l : Link) : (linkTo l.reach).Reads bound (l.node hand) l := by
  rcases l with ⟨reach, target, content⟩
  cases reach with
  | inside => exact reads_linkOf hand "Link" ⟨.inside, target, content⟩
  | outside => exact reads_linkOf hand "LinkExternal" ⟨.outside, target, content⟩

theorem reads_listing (kind : String) : listing.Reads bound (listingNode hand kind) kind := by
  refine Schema.reads_record hand (kind, ()) ?_ (by decide) rfl
  exact .entry (hand.reads_text kind) .nil

/-- Where the schema of inline content ends, no collection can be entered either. -/
theorem reads_inlineTo {c : Inline Unit}
    (h : ∀ k, (inlineStep (inlineTo k)).Reads (k + 1) (c.node hand) c) (k : Nat) :
    (inlineTo k).Reads k (c.node hand) c := by
  cases k with
  | succ k => exact h k
  | zero =>
      -- Whatever the content is, it is a mapping.
      cases c <;> exact Schema.reads_variant_zero hand

mutual

-- The name of the case tells the reach of a link and the style of a list, so the schema is found
-- once that is known.
theorem reads_inlineStep : ∀ (c : Inline Unit) (k : Nat),
    (inlineStep (inlineTo k)).Reads (k + 1) (c.node hand) c
  | .text s, _ => Schema.reads_variant hand rfl (hand.reads_text s)
  | .term t, _ => Schema.reads_variant hand rfl (reads_term hand t)
  | .link l, _ => Schema.reads_variant hand (by cases l.reach <;> rfl) (reads_link hand l)
  | .image i, _ => Schema.reads_variant hand rfl (reads_image hand i)
  | .list l, k => Schema.reads_variant hand (by cases l.style <;> rfl) (reads_itemList l k)
  | .footnote n, k => Schema.reads_variant hand rfl (reads_footnote n k)
  | .verbatim v, _ => Schema.reads_variant hand rfl (reads_verbatim hand v)

theorem reads_itemList : ∀ (l : ItemList Unit) (k : Nat),
    (itemList (inlineTo k) l.style).Reads k (l.node hand) l
  | ⟨style, type?, items⟩, k => by
      refine Schema.reads_record hand (type?, items, ()) ?_
        (show ["type", "items"].Nodup by decide) rfl
      exact written_text? hand type? (.entry (Schema.reads_list (reads_items items k)) .nil)

theorem reads_items : ∀ (items : List (ListItem Unit)) (k : Nat),
    List.Forall₂ ((listItem (inlineTo k)).Reads k) (nodesOfItems hand items) items
  | [], _ => .nil
  | item :: rest, k => .cons (reads_listItem item k) (reads_items rest k)

theorem reads_listItem : ∀ (item : ListItem Unit) (k : Nat),
    (listItem (inlineTo k)).Reads k (item.node hand) item
  | ⟨type?, content⟩, k => by
      refine Schema.reads_record hand (type?, content, ()) ?_
        (show ["type", "content"].Nodup by decide) rfl
      exact written_text? hand type? (.entry (Schema.reads_list (reads_inlines content k)) .nil)

theorem reads_footnote : ∀ (n : Footnote Unit) (k : Nat),
    (footnote (inlineTo k)).Reads k (n.node hand) n
  | ⟨(), content⟩, k => by
      refine Schema.reads_record hand (content, ()) ?_ (show ["content"].Nodup by decide) rfl
      exact .entry (Schema.reads_list (reads_inlines content k)) .nil

theorem reads_inlines : ∀ (cs : List (Inline Unit)) (k : Nat),
    List.Forall₂ ((inlineTo k).Reads k) (nodesOfInlines hand cs) cs
  | [], _ => .nil
  | c :: rest, k => .cons (reads_inlineTo hand (reads_inlineStep c) k) (reads_inlines rest k)

end

/-- Content outside of all inline content has all its unfoldings left. -/
theorem reads_content (cs : List (Inline Unit)) :
    (Schema.list inline).Reads depthLimit (.list (nodesOfInlines hand cs)) cs :=
  Schema.reads_list (reads_inlines hand cs depthLimit)

theorem reads_tableHead (columns : List String) :
    tableHead.Reads bound (headNode hand columns) columns := by
  refine Schema.reads_record hand (columns, ()) ?_ (by decide) rfl
  exact .entry (Schema.reads_map hand.reads_text columns) .nil

theorem reads_cell (content : Cell Unit) :
    cell.Reads depthLimit (cellNode hand content) content := by
  refine Schema.reads_record hand (content, ()) ?_ (by decide) rfl
  exact .entry (reads_content hand content) .nil

theorem reads_row (cells : Row Unit) : row.Reads depthLimit (rowNode hand cells) cells := by
  refine Schema.reads_record hand (cells, ()) ?_ (by decide) rfl
  exact .entry (Schema.reads_map (reads_cell hand) cells) .nil

theorem reads_table (t : Table Unit) : table.Reads depthLimit (t.node hand) t := by
  refine Schema.reads_record hand (t.summary, t.head?, t.body, ()) ?_ (by decide) rfl
  refine .entry (hand.reads_text t.summary) (.optional (reads_tableHead hand) ?_ t.head? ?_)
  · exact fun columns => hand.isThere_record _
  · exact .entry (Schema.reads_map (reads_row hand) t.body) .nil

/-- A case of paragraphs for content that may also stand elsewhere. -/
theorem reads_inParagraph {β : Type} {name case : String} {cases : Cases (ParagraphItem Unit)}
    {value : Schema β} {f : β → Inline Unit} {n : Node} {b : β}
    (hcase : cases.case? case = some ⟨value, .inline ∘ f⟩) (hvalue : value.Reads bound n b) :
    (Schema.variant name cases).Reads (bound + 1) (hand.single case n) (.inline (f b)) :=
  Schema.reads_variant (f := ParagraphItem.inline ∘ f) hand hcase hvalue

theorem reads_paragraphItem (c : ParagraphItem Unit) :
    paragraphItem.Reads depthLimit (c.node hand) c := by
  refine Schema.Reads.mono ?_ (Nat.le_succ depthLimit)
  rcases c with c | t | kind
  · cases c with
    | text s => exact reads_inParagraph hand rfl (hand.reads_text s)
    | term t => exact reads_inParagraph hand rfl (reads_term hand t)
    | link l => exact reads_inParagraph hand (by cases l.reach <;> rfl) (reads_link hand l)
    | image i => exact reads_inParagraph hand rfl (reads_image hand i)
    | list l =>
        have hlist := reads_itemList hand l depthLimit
        exact reads_inParagraph hand (by cases l.style <;> rfl) hlist
    | footnote n => exact reads_inParagraph hand rfl (reads_footnote hand n depthLimit)
    | verbatim v => exact reads_inParagraph hand rfl (reads_verbatim hand v)
  · exact Schema.reads_variant hand rfl (reads_table hand t)
  · exact Schema.reads_variant hand rfl (reads_listing hand kind)

theorem reads_formalContent (c : FormalContent Unit) :
    formalContent.Reads depthLimit (c.node hand) c := by
  refine Schema.Reads.mono ?_ (Nat.le_succ depthLimit)
  cases c with
  | listing kind => exact Schema.reads_variant hand rfl (reads_listing hand kind)
  | image i => exact Schema.reads_variant hand rfl (reads_image hand i)
  | list l =>
      have hlist := reads_itemList hand l depthLimit
      exact Schema.reads_variant hand (by cases l.style <;> rfl) hlist
  | table t => exact Schema.reads_variant hand rfl (reads_table hand t)
  | verbatim v => exact Schema.reads_variant hand rfl (reads_verbatim hand v)

theorem reads_paragraph (p : Paragraph) : paragraph.Reads depthLimit (p.node hand) p := by
  refine Schema.reads_record hand (p.id?, p.type?, p.content, ()) ?_ (by decide) rfl
  refine written_text? hand p.id? (written_text? hand p.type? ?_)
  exact .entry (Schema.reads_map (reads_paragraphItem hand) p.content) .nil

theorem reads_formalItem (item : FormalItem) :
    formalItem.Reads depthLimit (item.node hand) item := by
  refine Schema.reads_record hand (item.title, item.kind, item.id?, item.type?, item.content, ())
    ?_ (by decide) rfl
  refine .entry (hand.reads_text item.title) (.entry (hand.reads_text item.kind) ?_)
  refine written_text? hand item.id? (written_text? hand item.type? ?_)
  exact .entry (reads_formalContent hand item.content) .nil

theorem reads_block (b : Block) : block.Reads depthLimit (b.node hand) b := by
  refine Schema.Reads.mono ?_ (Nat.le_succ depthLimit)
  cases b with
  | paragraph p => exact Schema.reads_variant hand rfl (reads_paragraph hand p)
  | formalItem item => exact Schema.reads_variant hand rfl (reads_formalItem hand item)

theorem reads_subsect (s : Subsection) : subsect.Reads depthLimit (s.node hand) s := by
  refine Schema.reads_record hand (s.title, s.id?, s.type?, s.content, ()) ?_ (by decide) rfl
  refine .entry (hand.reads_text s.title) (written_text? hand s.id? (written_text? hand s.type? ?_))
  exact .entry (Schema.reads_map (reads_block hand) s.content) .nil

/-- The fields that sections and parts have before what they hold. -/
theorem written_heading {ρ : Type} {rest : Fields ρ} {fields : List (String × Option Node)}
    {values : ρ} (title : String) (id? type? : Option String) (tableOfContents : Bool)
    (hrest : rest.Written bound fields values) :
    (Fields.required "title" .text (.optional "id" .text (.optional "type" .text
      (.defaulting "contents" false .flag rest)))).Written bound
      (("title", some (hand.text title)) :: ("id", id?.map hand.text) ::
        ("type", type?.map hand.text) :: ("contents", some (.flag tableOfContents)) :: fields)
      (title, id?, type?, tableOfContents, values) := by
  refine .entry (hand.reads_text title) (written_text? hand id? (written_text? hand type? ?_))
  exact .entry (Schema.reads_flag tableOfContents) hrest

/-- A list that is there as one of two bodies. -/
theorem reads_body {α : Type} {item : Schema α} {node : α → Node}
    (h : ∀ a, item.Reads bound (node a) a) (values : List α) :
    (Schema.optional (.list item)).Reads bound (.list (values.map node)) (some values) :=
  Schema.reads_optional (Schema.reads_map h values) (Node.isThere_list _)

theorem reads_sect (s : Section) : sect.Reads depthLimit (s.node hand) s := by
  rcases s with ⟨title, id?, type?, tableOfContents, body⟩
  cases body with
  | content blocks =>
      have hbody := reads_body (reads_block hand) blocks
      refine Schema.reads_record hand
        (title, id?, type?, tableOfContents, some blocks, none, ()) ?_ (by decide) rfl
      exact written_heading hand title id? type? tableOfContents (.entry hbody (.leftOut .nil))
  | subsections subs =>
      have hbody := reads_body (reads_subsect hand) subs
      refine Schema.reads_record hand
        (title, id?, type?, tableOfContents, none, some subs, ()) ?_ (by decide) rfl
      exact written_heading hand title id? type? tableOfContents (.leftOut (.entry hbody .nil))

theorem reads_part (p : Part) : part.Reads depthLimit (p.node hand) p := by
  have hsections := Schema.reads_map (reads_sect hand) p.sections
  refine Schema.reads_record hand
    (p.title, p.id?, p.type?, p.tableOfContents, p.sections, ()) ?_ (by decide) rfl
  exact written_heading hand p.title p.id? p.type? p.tableOfContents (.entry hsections .nil)

theorem reads_document (d : Document) : document.Reads depthLimit (d.node hand) d := by
  rcases d with ⟨title, tableOfContents, style?, body⟩
  cases body with
  | parts ps =>
      have hbody := reads_body (reads_part hand) ps
      refine Schema.reads_record hand
        (title, tableOfContents, style?, some ps, none, ()) ?_ (by decide) rfl
      refine .entry (hand.reads_text title) (.entry (Schema.reads_flag tableOfContents) ?_)
      exact written_text? hand style? (.entry hbody (.leftOut .nil))
  | sections ss =>
      have hbody := reads_body (reads_sect hand) ss
      refine Schema.reads_record hand
        (title, tableOfContents, style?, none, some ss, ()) ?_ (by decide) rfl
      refine .entry (hand.reads_text title) (.entry (Schema.reads_flag tableOfContents) ?_)
      exact written_text? hand style? (.leftOut (.entry hbody .nil))

end Format

/-- Drafts that are written as nodes are read back, whatever the nodes are that could be referred
    to, unless the nodes are nested too deeply. -/
theorem Document.readTree_node (hand : Yaml.Hand) (d : Document) (targets : List Yaml.Node)
    (size : Nat) :
    (Format.document.readTree ⟨some (d.node hand), targets, size⟩).mapError Yaml.Failure.message =
      if (d.node hand).nesting ≤ 128 then .ok d else .error "recursion limit exceeded" := by
  have hread : Format.document.read ⟨targets.toArray, 100 * size⟩ 128 (d.node hand) =
      .fitting (d.node hand).nesting 128 d :=
    Format.reads_document hand d _ Yaml.depthLimit (Nat.le_refl Yaml.depthLimit)
  -- Nothing is followed while the nodes are read, so the count of references does not matter.
  rw [Yaml.Schema.readTree]
  simp only [Yaml.depthLimit, hread, Yaml.Reader.fitting]
  by_cases hdeep : (d.node hand).nesting ≤ 128
  · rw [if_pos hdeep, if_pos hdeep]
    rfl
  · rw [if_neg hdeep, if_neg hdeep]
    rfl

end Draft

end Manuscript
