import Manuscript.Proofs.Index.Identifiers
import Manuscript.Proofs.Numbering.Gathering

/-!
# Identifiers of a Draft

Whether a draft can be numbered is decided by its identifiers alone, and so is
what is reported when it cannot. Both are said here about the draft as it is
written, before anything is numbered.

`Draft.Document.identifiers` lists the identifiers of a draft, each with the
description of the element that carries it. The order is the one in which the
elements are finished: a subsection comes after its blocks, a section after
its body, a part after its sections. The descriptions name numbers, and an
error may name a number before its element is built; therefore they are taken
from places in the draft, by counting what stands before.

`Draft.Document.map_site_elements` connects this with the elements that
numbering builds, and what is left is the definition of a list of identifiers.

## Main definitions

* `Site`: What an error can say of an element.
* `Draft.Document.sites`: The sites of a draft, as its elements are finished.
* `Draft.Document.identifiers`: Its identifiers, each with a description.

## Theorems

* `Draft.Document.map_site_elements`: The elements that are built have these sites.
* `Draft.Document.enumerate_identifiers`: When a draft is refused, and how.
-/

namespace Manuscript

/-- What an error can say of an element. -/
structure Site where
  id? : Option String
  elementClass : ElementClass
  /-- The components of the number of the element. -/
  components : List Nat

namespace Site

/-- The class and the number of the element, such as `paragraph 1.3`. -/
def describe (s : Site) : String := s.elementClass.name ++ " " ++ dotted s.components

/-- The identifier with the description of its element, if there is one. -/
def entry? (s : Site) : Option (String × String) := s.id?.map fun id => (id, s.describe)

end Site

namespace Element

/-- The components of the number of an element. -/
def components : Element → List Nat
  | part p => p.number.components
  | sect s => s.number.components
  | subsect s => s.number.components
  | paragraph p => p.number.components
  | formalItem f => f.number.components

/-- What an error can say of a numbered element. -/
def site (e : Element) : Site := ⟨e.id?, e.elementClass, e.components⟩

theorem describe_site (e : Element) : e.site.describe = e.describe := by
  cases e with
  | part p => rfl
  | sect s => rfl
  | subsect s => rfl
  | paragraph p => rfl
  | formalItem f => rfl

end Element

/-- The identifiers among some sites are those of the elements, with their descriptions. -/
theorem filterMap_entry_map_site (elements : List Element) :
    (elements.map Element.site).filterMap Site.entry? =
      (bindings elements).map fun binding => (binding.1, binding.2.describe) := by
  rw [bindings, List.filterMap_map, List.map_filterMap]
  refine congrArg (List.filterMap · elements) (funext fun e => ?_)
  rw [Function.comp_apply, Site.entry?, Element.describe_site, Element.binding?, Option.map_map]
  rfl

namespace Draft

/-! ### The sites of a draft -/

/-- The identifier of a block, if it carries one. -/
def Block.id? : Block → Option String
  | .paragraph p => p.id?
  | .formalItem f => f.id?

/-- The blocks of a scope. Each is counted among those of its class. -/
def sitesOfBlocks (scope : List Nat) (blocks : List Block) : List Site :=
  blocks.mapIdx fun i b =>
    ⟨b.id?, b.itemClass.element,
      scope ++ [(Position.ofIndex (Block.rank b.itemClass blocks i)).val]⟩

/-- The blocks of the subsection at place `i`, and then the subsection. -/
def Subsection.sites (parent : List Nat) (i : Nat) (s : Subsection) : List Site :=
  let number := parent ++ [(Position.ofIndex i).val]
  sitesOfBlocks number s.content ++ [⟨s.id?, .subsect, number⟩]

/-- The body of a section, subsection by subsection if it is divided. -/
def SectionBody.sites (number : List Nat) : SectionBody → List Site
  | .content blocks => sitesOfBlocks number blocks
  | .subsections divisions => (divisions.mapIdx (Subsection.sites number)).flatten

/-- The body of the section at place `i`, and then the section. -/
def Section.sites (part : List Nat) (i : Nat) (s : Section) : List Site :=
  let number := part ++ [(Position.ofIndex i).val]
  s.body.sites number ++ [⟨s.id?, .sect, number⟩]

/-- The sections of the part at place `i`, and then the part. -/
def Part.sites (i : Nat) (p : Part) : List Site :=
  let number := [(Position.ofIndex i).val]
  (p.sections.mapIdx (Section.sites number)).flatten ++ [⟨p.id?, .part, number⟩]

/-- The body of a document. -/
def Body.sites : Body → List Site
  | .parts divisions => (divisions.mapIdx Part.sites).flatten
  | .sections divisions => (divisions.mapIdx (Section.sites [])).flatten

/-- The elements of a draft in the order in which they are finished. -/
def Document.sites (d : Document) : List Site := d.body.sites

/-- The identifiers of a draft in this order, each with the description of its element. -/
def Document.identifiers (d : Document) : List (String × String) := d.sites.filterMap Site.entry?

/-! ### Elements stand at their sites -/

theorem id?_numberFrom (scope : Scope) (c : BlockCount) (b : Block) :
    (b.numberFrom scope c).element.id? = b.id? := by
  cases b with
  | paragraph p => rfl
  | formalItem f => rfl

theorem site_element (b : Manuscript.Block) :
    b.element.site =
      ⟨b.element.id?, b.itemClass.element, b.scope.components ++ [b.position.val]⟩ := by
  cases b with
  | paragraph p => rfl
  | formalItem f => rfl

theorem map_site_numberBlocks (scope : Scope) (k : Nat) (blocks : List Block) :
    ((numberBlocks scope k blocks).map Block.element).map Element.site =
      sitesOfBlocks scope.components blocks := by
  apply List.ext_getElem?
  intro i
  rw [List.getElem?_map, List.getElem?_map, numberBlocks, getElem?_walk, sitesOfBlocks,
    List.getElem?_mapIdx, Option.map_map, Option.map_map]
  refine congrArg (Option.map · blocks[i]?) (funext fun b => ?_)
  simp only [Function.comp_apply]
  rw [site_element, id?_numberFrom, itemClass_numberFrom, scope_numberFrom, position_numberFrom]

/-- Siblings have the sites of their places, if each of them has those of its own place. -/
theorem map_site_numberSiblings {α β : Type} {held : α → List (Footnote Unit)}
    {f : Position → Nat → α → β} {elements : β → List Element} {sites : Nat → α → List Site}
    (h : ∀ i k x, (elements (f (.ofIndex i) k x)).map Element.site = sites i x) (k : Nat)
    (xs : List α) :
    ((numberSiblings held f 0 k xs).flatMap elements).map Element.site =
      (xs.mapIdx sites).flatten := by
  rw [List.map_flatMap, List.flatMap_def, map_numberSiblings h]

theorem Subsection.map_site_numberFrom (parent : SectionNumber) (i k : Nat) (s : Subsection) :
    (s.numberFrom (parent.subsectionAt (.ofIndex i)) k).elements.map Element.site =
      s.sites parent.components i := by
  unfold Subsection.elements
  rw [List.map_append]
  exact congrArg (· ++ _) (map_site_numberBlocks (.ofSubsection _) k s.content)

theorem SectionBody.map_site_numberFrom (number : SectionNumber) (k : Nat) (body : SectionBody) :
    (body.numberFrom number k).elements.map Element.site = body.sites number.components := by
  cases body with
  | content blocks => exact map_site_numberBlocks (.ofSection number) k blocks
  | subsections divisions =>
      exact map_site_numberSiblings (Subsection.map_site_numberFrom number) k divisions

theorem Section.map_site_numberFrom (part? : Option PartNumber) (i k : Nat) (s : Section) :
    (s.numberFrom ⟨part?, .ofIndex i⟩ k).elements.map Element.site =
      s.sites (part?.map (·.position.val)).toList i := by
  unfold Section.elements
  rw [List.map_append]
  exact congrArg (· ++ _) (s.body.map_site_numberFrom ⟨part?, .ofIndex i⟩ k)

theorem map_site_numberSections (part? : Option PartNumber) (k : Nat) (divisions : List Section) :
    ((numberSections part? k divisions).flatMap Section.elements).map Element.site =
      (divisions.mapIdx (Section.sites (part?.map (·.position.val)).toList)).flatten :=
  map_site_numberSiblings (Section.map_site_numberFrom part?) k divisions

theorem Part.map_site_numberFrom (i k : Nat) (p : Part) :
    (p.numberFrom ⟨.ofIndex i⟩ k).elements.map Element.site = p.sites i := by
  unfold Part.elements
  rw [List.map_append]
  exact congrArg (· ++ _) (map_site_numberSections (some ⟨.ofIndex i⟩) k p.sections)

/-- The elements that numbering builds stand at the sites of the draft. -/
theorem Document.map_site_elements (d : Document) :
    d.numbered.elements.map Element.site = d.sites := by
  unfold numbered Body.numberFrom sites Body.sites
  cases d.body with
  | parts divisions => exact map_site_numberSiblings Part.map_site_numberFrom 0 divisions
  | sections divisions => exact map_site_numberSections none 0 divisions

/-! ### When a draft is refused -/

theorem Document.identifiers_eq (d : Document) :
    d.identifiers = (bindings d.numbered.elements).map
      fun binding => (binding.1, binding.2.describe) := by
  rw [identifiers, ← d.map_site_elements, filterMap_entry_map_site]

/-- Gathering succeeds if the identifiers of the elements can all be defined. -/
theorem Document.enumerate_eq_defineAll (d : Document) :
    d.enumerate = (Identifiers.empty.defineAll (bindings d.numbered.elements)).map fun t =>
      ⟨d.title, d.tableOfContents, d.style?, d.numbered,
        ⟨t, Footnotes.empty.extend d.numbered.notes,
          FormalItems.empty.fileAll d.numbered.elements⟩⟩ := by
  rw [enumerate_eq, Index.gather, Identifiers.foldlM_defineIfAny]
  unfold Index.empty
  cases Identifiers.empty.defineAll (bindings d.numbered.elements) with
  | error conflict => rfl
  | ok t => rfl

/-- The first identifier of a draft that is taken is reported. -/
theorem Document.enumerate_of_firstClash {d : Document} {id holder claimant : String}
    (h : FirstClash d.identifiers id holder claimant) :
    d.enumerate = .error ⟨id, holder, claimant⟩ := by
  rw [identifiers_eq] at h
  rcases h.of_map with ⟨a, b, hclash, rfl, rfl⟩
  rw [enumerate_eq_defineAll, Identifiers.Holds.defineAll_clash hclash]
  rfl

theorem Document.enumerate_of_nodup {d : Document} (h : (d.identifiers.map Prod.fst).Nodup) :
    ∃ doc, d.enumerate = .ok doc := by
  rw [identifiers_eq, List.map_map] at h
  rcases Identifiers.Holds.empty.defineAll (bindings d.numbered.elements) h with ⟨t, ht, -⟩
  rw [enumerate_eq_defineAll, ht]
  exact ⟨_, rfl⟩

/-- A draft is numbered if and only if its identifiers differ from each other. Otherwise the error
    is about the first element whose identifier is taken, and describes it and the holder. -/
theorem Document.enumerate_identifiers (d : Document) :
    ((∃ doc, d.enumerate = .ok doc) ↔ (d.identifiers.map Prod.fst).Nodup) ∧
      ∀ e, d.enumerate = .error e ↔ FirstClash d.identifiers e.identifier e.holder e.claimant := by
  -- One of the two outcomes is reached in any case, and each excludes the other.
  by_cases hnodup : (d.identifiers.map Prod.fst).Nodup
  · rcases enumerate_of_nodup hnodup with ⟨doc, hdoc⟩
    refine ⟨⟨fun _ => hnodup, fun _ => ⟨doc, hdoc⟩⟩, fun e => ⟨?_, ?_⟩⟩
    · intro he
      rw [hdoc] at he
      cases he
    · intro hclash
      rw [← enumerate_of_firstClash hclash]
  · rcases exists_firstClash [] List.nodup_nil hnodup with ⟨id, a, b, hclash⟩
    have herror := enumerate_of_firstClash hclash
    refine ⟨⟨?_, fun h => absurd h hnodup⟩, fun e => ⟨?_, ?_⟩⟩
    · rintro ⟨doc, hdoc⟩
      rw [hdoc] at herror
      cases herror
    · intro he
      rw [herror] at he
      cases he
      exact hclash
    · intro h
      exact enumerate_of_firstClash h

example : Document.handbook.identifiers =
    [("overview", "formal item 1.1.1"), ("usage", "paragraph 1.1.2"), ("terms", "section 1.1"),
      ("marks", "formal item 1.2.1.1"), ("writing", "subsection 1.2.1"), ("basics", "part 1")] := by
  decide +kernel

end Draft

end Manuscript
