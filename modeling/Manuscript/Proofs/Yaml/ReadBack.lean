import Manuscript.Proofs.Yaml.Node.Composing
import Manuscript.Proofs.Yaml.Readable
import Manuscript.Proofs.Yaml.Words

/-!
# Printed Data Read Back

A record that is printed after the marker of a document's start is read back. The
text is split into the tokens of the record, these make up its node, and the node
says what the record says.

What a scalar says is told by its style: in quotes and in literal lines it is
text, and without quotes it may be a number, a truth value or null instead. Texts
are printed in quotes where they would be taken for one of these. A number is
compared by its numeral.

## Main definitions

* `Yaml.Node.data?`, `Yaml.Tree.data?`: A node or tree as plain data.
* `Yaml.IsNumber`: A numeral that is taken for a number.

## Theorems

* `Yaml.data?_nodeOf`: A node says what its data says.
* `Yaml.read?_print`: A printed record is read back.
-/

namespace Manuscript

namespace Yaml

/-! ### Nodes as plain data -/

/-- What a plain scalar says. A number is kept as its numeral. -/
def plainData (text : String) : Data :=
  match meaning text with
  | .null => .null
  | .flag b => .flag b
  | .text => .text text
  | _ => .number text

mutual

/-- The plain data of a node. There is none if a part of it has a tag, is a reference, or is a key
    that is no text. -/
def Node.data? : Node → Option Data
  | .scalar none style text => some (if style = .plain then plainData text else .text text)
  | .sequence none items => (itemsData? items).map .list
  | .mapping none entries => (entriesData? entries).map .record
  | _ => none

def itemsData? : List Node → Option (List Data)
  | [] => some []
  | item :: rest => do return (← item.data?) :: (← itemsData? rest)

def entriesData? : List (Node × Node) → Option (List (String × Data))
  | [] => some []
  | (key, value) :: rest => do
    let .text name ← key.data? | none
    return (name, ← value.data?) :: (← entriesData? rest)

end

/-- The plain data of a document. -/
def Tree.data? (t : Tree) : Option Data := t.root?.bind Node.data?

theorem plainData_of_needsQuotes {s : String} (h : needsQuotes s = false) :
    plainData s = .text s := by
  rw [needsQuotes, Bool.or_eq_false_iff, decide_eq_false_iff_not, Decidable.not_not] at h
  rw [plainData, h.1]

theorem data?_scalar (s : String) : (Node.scalar none (styleOf s) s).data? = some (.text s) := by
  have hsuits := suits_styleOf s
  generalize styleOf s = style at hsuits
  rw [Node.data?]
  cases hsuits with
  | plain hneeds => rw [if_pos rfl, plainData_of_needsQuotes hneeds]
  | singleQuoted => rfl
  | literal => rfl
  | doubleQuoted => rfl

mutual

theorem data?_nodeOf : ∀ (d : Data) (_ : ∀ n ∈ d.numerals, plainData n = .number n),
    (nodeOf d).data? = some d
  | .null, _ => by
      have hnull : meaning "null" = .null := by decide
      rw [nodeOf, Node.data?, if_pos rfl, plainData, hnull]
  | .flag b, _ => by
      have hflag : meaning (if b then "true" else "false") = .flag b := by cases b <;> decide
      rw [nodeOf, Node.data?, if_pos rfl, plainData, hflag]
  | .number n, h => by rw [nodeOf, Node.data?, if_pos rfl, h n List.mem_cons_self]
  | .text s, _ => data?_scalar s
  | .list items, h => by
      rw [nodeOf, Node.data?, data?_nodesOfItems items h]
      rfl
  | .record fields, h => by
      rw [nodeOf, Node.data?, data?_entriesOfFields fields h]
      rfl

theorem data?_nodesOfItems : ∀ (items : List Data)
    (_ : ∀ n ∈ Data.numeralsOfItems items, plainData n = .number n),
    itemsData? (nodesOfItems items) = some items
  | [], _ => rfl
  | item :: rest, h => by
      rw [nodesOfItems, itemsData?, data?_nodeOf item fun n hn => h n (List.mem_append_left _ hn),
        data?_nodesOfItems rest fun n hn => h n (List.mem_append_right _ hn)]
      rfl

theorem data?_entriesOfFields : ∀ (fields : List (String × Data))
    (_ : ∀ n ∈ Data.numeralsOfFields fields, plainData n = .number n),
    entriesData? (entriesOfFields fields) = some fields
  | [], _ => rfl
  | (name, value) :: rest, h => by
      rw [entriesOfFields, entriesData?, data?_scalar,
        data?_nodeOf value fun n hn => h n (List.mem_append_left _ hn),
        data?_entriesOfFields rest fun n hn => h n (List.mem_append_right _ hn)]
      rfl

end

/-! ### Texts -/

theorem readTokens?_print {fields : List (String × Data)} (hne : fields ≠ [])
    (hnumerals : ∀ n ∈ Data.numeralsOfFields fields, IsNumeral n) :
    readTokens? ("---\n".toList ++ print (.record fields)) =
      some (.documentStart :: (valueTokens (.record fields) ++ [.finish])) := by
  have hreadable : Readable ("---\n".toList ++ print (.record fields)) :=
    Readable.append (Readable.of_all rfl) (readable_printValue 0 (.record fields) hnumerals)
  have hscans := Layout.scans_document hne hnumerals
  cases fields with
  | nil => exact absurd rfl hne
  | cons field rest =>
      rw [readTokens?, if_pos (List.all_eq_true.mpr hreadable)]
      refine (hscans _ (Nat.lt_succ_self _)).trans ?_
      rw [valueTokens]
      simp

theorem ofTokens?_print {fields : List (String × Data)} (hne : fields ≠ []) :
    ∃ size, Tree.ofTokens? (.documentStart :: (valueTokens (.record fields) ++ [.finish])) =
      some ⟨some (nodeOf (.record fields)), [], size⟩ := by
  let c : Composer := Directives.none.composer
  have hplace : c.place = .node .none := rfl
  rcases Composer.composes_value (.record fields) hplace rfl with ⟨size, hcomposes⟩
  refine ⟨size, ?_⟩
  have hmarked : Tree.ofTokens? (.documentStart :: (valueTokens (.record fields) ++ [.finish])) =
      c.run? (valueTokens (.record fields) ++ [.finish]) >>= Composer.tree? := by
    cases fields with
    | nil => exact absurd rfl hne
    | cons field rest => rfl
  have htargets : Anchors.empty.targets? = some [] := by
    simp [Anchors.empty, Anchors.targets?]
  have htree : (Anchors.empty.targets?.map fun targets =>
      (⟨some (nodeOf (.record fields)), targets, size⟩ : Tree)) =
        some ⟨some (nodeOf (.record fields)), [], size⟩ := by
    rw [htargets]
    rfl
  rw [hmarked, hcomposes]
  exact htree

/-- Whether a number is printed as a numeral that is taken for a number. -/
structure IsNumber (n : String) : Prop extends IsNumeral n where
  plainData_eq : plainData n = .number n

theorem isNumber_toString {n : Nat} (h : n < Nat.pow 2 64) : IsNumber (toString n) where
  nonempty hnil := Nat.toDigits_ne_nil (Nat.toList_repr.symm.trans hnil)
  digits c hc := by
    have hdigits : (toString n).toList = Nat.toDigits 10 n := Nat.toList_repr
    rw [hdigits] at hc
    exact Nat.isDigit_of_mem_toDigits (by decide) (by decide) hc
  plainData_eq := by rw [plainData, meaning_toString h]

/-- A record is read back from the text after a start marker. -/
theorem read?_print {fields : List (String × Data)} (hne : fields ≠ [])
    (h : ∀ n ∈ Data.numeralsOfFields fields, IsNumber n) :
    (Tree.read? (String.ofList ("---\n".toList ++ print (.record fields)))).bind Tree.data? =
      some (.record fields) := by
  rcases ofTokens?_print hne with ⟨size, htree⟩
  rw [Tree.read?, String.toList_ofList, readTokens?_print hne fun n hn => (h n hn).toIsNumeral,
    Option.bind_some, htree, Option.bind_some]
  exact data?_nodeOf (.record fields) fun n hn => (h n hn).plainData_eq

end Yaml

end Manuscript
