import Manuscript.Proofs.Yaml.Token.Printed
import Manuscript.Yaml.Node.Reading

/-!
# Composing Printed Data

The tokens of data make up its node again. Each token has its own lemma, which
says what the composer does where it stands, and the rest is an induction on the
data: a value adds one node to the collection around it.

A list after a short name is the one case where a value is not complete by its
last token. It is finished by the token that follows, a key or the end of the
mapping, and is put in its place before that token is taken.

## Main definitions

* `Yaml.nodeOf`: Data as a node.
* `Yaml.Composer.Composes`, `Yaml.Composer.ComposesInField`: Tokens make up a node.

## Theorems

* `Yaml.Composer.composes_value`: The tokens of a value make up its node.
* `Yaml.Composer.composes_shortValue`: So do those of a value after a short name.
-/

namespace Manuscript

namespace Yaml

/-! ### The nodes -/

mutual

/-- Data as a node. -/
def nodeOf : Data → Node
  | .null => .scalar none .plain "null"
  | .flag b => .scalar none .plain (if b then "true" else "false")
  | .number n => .scalar none .plain n
  | .text s => .scalar none (styleOf s) s
  | .list items => .sequence none (nodesOfItems items)
  | .record fields => .mapping none (entriesOfFields fields)

def nodesOfItems : List Data → List Node
  | [] => []
  | item :: rest => nodeOf item :: nodesOfItems rest

def entriesOfFields : List (String × Data) → List (Node × Node)
  | [] => []
  | (name, value) :: rest =>
      (.scalar none (styleOf name) name, nodeOf value) :: entriesOfFields rest

end

namespace Composer

variable {c : Composer} {frames : List Frame} {acc : List Node} {entries : List (Node × Node)}

theorem run?_cons (c : Composer) (t : Token) (tokens : List Token) :
    c.run? (t :: tokens) = (c.step? t).bind (·.run? tokens) := rfl

/-! ### Single tokens -/

/-- The tokens with which a value starts, wherever it is. -/
def startsNode : Token → Bool
  | .scalar .. => true
  | .flowSequenceStart => true
  | .flowMappingStart => true
  | .blockSequenceStart => true
  | .blockMappingStart => true
  | _ => false

/-- No node is left out before a token that starts one. -/
theorem omits_of_startsNode (hblock : c.allowsBlock = true) {t : Token}
    (ht : startsNode t = true) : c.omits t = false := by
  have hnot (u : Token) (hu : startsNode u = false) : t ≠ u := by
    rintro rfl
    rw [hu] at ht
    cases ht
  unfold allowsBlock at hblock
  unfold omits
  split
  all_goals
    simp_all only [hnot .blockEntry rfl, hnot .blockEnd rfl, hnot .key rfl, hnot .value rfl,
      decide_false, Bool.or_false]
  all_goals cases hblock

theorem step?_node (hplace : c.place = .node .none) (hblock : c.allowsBlock = true) {t : Token}
    (ht : startsNode t = true) : c.step? t = c.takeNode? .none t := by
  have homits := omits_of_startsNode hblock ht
  have hpass : c.passesOver t = false := by
    unfold passesOver
    rw [homits]
    split
    · exact Bool.and_false _
    · rfl
  rw [step?, hpass]
  simp [settleNode, settleLoose, settleValue, take?, homits, Properties.isNone, Properties.none,
    hplace]

/-- An item at the column of the record around the list. -/
theorem step?_loose {p : Properties} {key? : Option Node} (hplace : c.place = .node .none)
    (hframes : c.frames = .blockMapping p entries key? :: frames) :
    c.step? .blockEntry = some (c.opening (.looseSequence .none []) (.node .none)) := by
  simp [step?, passesOver, settleNode, settleLoose, settleValue, take?, takeNode?, allowsLoose,
    omits, Properties.isNone, Properties.none, hplace, hframes]

/-- The two ways in which a list is open. -/
inductive IsSequence : (List Node → Frame) → Prop
  | block : IsSequence (.blockSequence .none)
  | loose : IsSequence (.looseSequence .none)

theorem step?_item {frame : List Node → Frame} (hframe : IsSequence frame)
    (hplace : c.place = .between) (hframes : c.frames = frame acc :: frames) :
    c.step? .blockEntry = some { c with place := .node .none } := by
  cases hframe <;>
    simp [step?, passesOver, settleNode, settleLoose, settleValue, take?, takeBetween?, hplace,
      hframes]

theorem step?_sequenceEnd (hplace : c.place = .between)
    (hframes : c.frames = .blockSequence .none acc :: frames) :
    c.step? .blockEnd = some ({ c with frames }.put (.sequence none acc.reverse)) := by
  simp [step?, passesOver, settleNode, settleLoose, settleValue, take?, takeBetween?, complete,
    Anchors.file, Properties.none, hplace, hframes]

theorem step?_key (hplace : c.place = .between)
    (hframes : c.frames = .blockMapping .none entries none :: frames) :
    c.step? .key = some { c with place := .node .none } := by
  simp [step?, passesOver, settleNode, settleLoose, settleValue, take?, takeBetween?, hplace,
    hframes]

theorem step?_value {key : Node} (hplace : c.place = .between)
    (hframes : c.frames = .blockMapping .none entries (some key) :: frames) :
    c.step? .value = some { c with place := .node .none } := by
  simp [step?, passesOver, settleNode, settleLoose, settleValue, take?, takeBetween?, hplace,
    hframes]

theorem step?_mappingEnd (hplace : c.place = .between)
    (hframes : c.frames = .blockMapping .none entries none :: frames) :
    c.step? .blockEnd = some ({ c with frames }.put (.mapping none entries.reverse)) := by
  simp [step?, passesOver, settleNode, settleLoose, settleValue, take?, takeBetween?, complete,
    Anchors.file, Properties.none, hplace, hframes]

/-- A list that is not indented is finished by the token after it. -/
theorem step?_looseEnd {key : Node} {t : Token} (ht : t = .key ∨ t = .blockEnd)
    (hplace : c.place = .between) (hframes : c.frames = .looseSequence .none acc ::
      .blockMapping .none entries (some key) :: frames) :
    c.step? t = ({ c with frames := .blockMapping .none entries (some key) :: frames }.put
      (.sequence none acc.reverse)).step? t := by
  rcases ht with rfl | rfl <;>
    simp [step?, passesOver, settleNode, settleLoose, settleValue, take?, takeBetween?, complete,
      Anchors.file, Properties.none, put, hplace, hframes]

/-- A finished node settles what comes next. -/
theorem put_place (hblock : c.allowsBlock = true) (place : Place) (n : Node) :
    { c with place }.put n = c.put n := by
  rcases c with ⟨handles, frames, _, anchors, size, root?⟩
  cases frames with
  | nil => rfl
  | cons f rest =>
      cases f with
      | blockSequence p items => rfl
      | looseSequence p items => rfl
      | blockMapping p entries key? => cases key? <;> rfl
      | flowSequence p items => cases hblock
      | flowMapping p entries key? bare => cases hblock
      | flowPair key? => cases hblock

/-! ### Values -/

theorem run?_scalar (hplace : c.place = .node .none) (hblock : c.allowsBlock = true)
    (style : ScalarStyle) (text : String) (rest : List Token) :
    c.run? (.scalar style text :: rest) =
      ({ c with size := c.size + 1 }.put (.scalar none style text)).run? rest := by
  rw [run?_cons, step?_node hplace hblock rfl]
  rfl

theorem run?_flowSequence (hplace : c.place = .node .none) (hblock : c.allowsBlock = true)
    (rest : List Token) : c.run? (.flowSequenceStart :: .flowSequenceEnd :: rest) =
      ({ c with size := c.size + 2 }.put (.sequence none [])).run? rest := by
  have hend : (c.opening (.flowSequence .none []) .opened).step? .flowSequenceEnd =
    some ({ c with size := c.size + 2, place := .opened }.put (.sequence none [])) := rfl
  have hstart : c.step? .flowSequenceStart = some (c.opening (.flowSequence .none []) .opened) :=
    step?_node hplace hblock rfl
  rw [run?_cons, hstart, Option.bind_some, run?_cons, hend, Option.bind_some]
  exact congrArg (run? · rest) (put_place (c := { c with size := c.size + 2 }) hblock .opened _)

theorem run?_flowMapping (hplace : c.place = .node .none) (hblock : c.allowsBlock = true)
    (rest : List Token) : c.run? (.flowMappingStart :: .flowMappingEnd :: rest) =
      ({ c with size := c.size + 2 }.put (.mapping none [])).run? rest := by
  have hend : (c.opening (.flowMapping .none [] none false) .opened).step? .flowMappingEnd =
    some ({ c with size := c.size + 2, place := .opened }.put (.mapping none [])) := rfl
  have hstart : c.step? .flowMappingStart =
    some (c.opening (.flowMapping .none [] none false) .opened) := step?_node hplace hblock rfl
  rw [run?_cons, hstart, Option.bind_some, run?_cons, hend, Option.bind_some]
  exact congrArg (run? · rest) (put_place (c := { c with size := c.size + 2 }) hblock .opened _)

/-- After the fields the mapping goes on with a key or ends. -/
theorem fieldTokens_append (fields : List (String × Data)) (rest : List Token) :
    ∃ t more, fieldTokens fields ++ .blockEnd :: rest = t :: more ∧ (t = .key ∨ t = .blockEnd) := by
  cases fields with
  | nil => exact ⟨.blockEnd, rest, rfl, .inr rfl⟩
  | cons field fields => exact ⟨.key, _, rfl, .inl rfl⟩

/-- The tokens of a value make up its node, which is put where it belongs. -/
def Composes (c : Composer) (tokens : List Token) (n : Node) : Prop :=
  ∃ size, ∀ rest, c.run? (tokens ++ rest) = ({ c with size }.put n).run? rest

/-- The same where a field ends with the value. A list that is not indented is complete only when
    the token after it comes. -/
def ComposesInField (c : Composer) (tokens : List Token) (n : Node) : Prop :=
  ∃ size, ∀ t rest, (t = .key ∨ t = .blockEnd) →
    c.run? (tokens ++ t :: rest) = ({ c with size }.put n).run? (t :: rest)

theorem Composes.inField {tokens : List Token} {n : Node} (h : c.Composes tokens n) :
    c.ComposesInField tokens n := by
  rcases h with ⟨size, h⟩
  exact ⟨size, fun t rest _ => h (t :: rest)⟩

theorem allowsBlock_of_mapping {key : Node}
    (hframes : c.frames = .blockMapping .none entries (some key) :: frames) :
    c.allowsBlock = true := by
  rw [allowsBlock, hframes]

mutual

theorem composes_value : ∀ (d : Data) {c : Composer} (_ : c.place = .node .none)
    (_ : c.allowsBlock = true), c.Composes (valueTokens d) (nodeOf d)
  | .list (item :: more), c, hplace, hblock => by
      have hstart : c.step? .blockSequenceStart =
          some (c.opening (.blockSequence .none []) .between) := by
        rw [step?_node hplace hblock rfl, takeNode?, if_pos hblock]
      rcases run?_items (item :: more) .block
        (c := c.opening (.blockSequence .none []) .between) rfl rfl with ⟨n, hitems⟩
      refine ⟨n, fun rest => ?_⟩
      have hend := step?_sequenceEnd (c := { c.opening (.blockSequence .none []) .between with
        frames := .blockSequence .none ((nodesOfItems (item :: more)).reverse ++ []) :: c.frames
        size := n }) rfl rfl
      rw [List.append_nil, List.reverse_reverse] at hend
      rw [valueTokens, List.append_assoc, List.cons_append, run?_cons, hstart, Option.bind_some,
        hitems, List.append_nil, List.singleton_append, run?_cons, hend, Option.bind_some]
      exact congrArg (run? · rest) (put_place (c := { c with size := n }) hblock .between _)
  | .record (field :: more), c, hplace, hblock => by
      have hstart : c.step? .blockMappingStart =
          some (c.opening (.blockMapping .none [] none) .between) := by
        rw [step?_node hplace hblock rfl, takeNode?, if_pos hblock]
      rcases run?_fields (field :: more)
        (c := c.opening (.blockMapping .none [] none) .between) rfl rfl with ⟨n, hfields⟩
      refine ⟨n, fun rest => ?_⟩
      have hend := step?_mappingEnd (c := { c.opening (.blockMapping .none [] none) .between with
        frames := .blockMapping .none ((entriesOfFields (field :: more)).reverse ++ []) none ::
          c.frames
        size := n }) rfl rfl
      rw [List.append_nil, List.reverse_reverse] at hend
      rw [valueTokens, List.append_assoc, List.cons_append, run?_cons, hstart, Option.bind_some,
        List.singleton_append, hfields, List.append_nil, run?_cons, hend, Option.bind_some]
      exact congrArg (run? · rest) (put_place (c := { c with size := n }) hblock .between _)
  | .null, c, hplace, hblock => ⟨c.size + 1, run?_scalar hplace hblock _ _⟩
  | .flag _, c, hplace, hblock => ⟨c.size + 1, run?_scalar hplace hblock _ _⟩
  | .number _, c, hplace, hblock => ⟨c.size + 1, run?_scalar hplace hblock _ _⟩
  | .text _, c, hplace, hblock => ⟨c.size + 1, run?_scalar hplace hblock _ _⟩
  | .list [], c, hplace, hblock => ⟨c.size + 2, run?_flowSequence hplace hblock⟩
  | .record [], c, hplace, hblock => ⟨c.size + 2, run?_flowMapping hplace hblock⟩

/-- A value after a short name. -/
theorem composes_shortValue : ∀ (d : Data) {c : Composer} {entries : List (Node × Node)}
    {key : Node} {frames : List Frame} (_ : c.place = .node .none)
    (_ : c.frames = .blockMapping .none entries (some key) :: frames),
    c.ComposesInField (shortValueTokens d) (nodeOf d)
  | .list (item :: more), c, entries, key, frames, hplace, hframes => by
      rcases c with ⟨handles, _, _, anchors, size, root?⟩
      cases hplace
      cases hframes
      let outer : Frame := .blockMapping .none entries (some key)
      -- The first item opens the list, from where it is an item like the others.
      rcases run?_items (item :: more) .loose
        (c := ⟨handles, .looseSequence .none [] :: outer :: frames, .between, anchors, size + 2,
          root?⟩) rfl rfl with ⟨n, hitems⟩
      refine ⟨n, fun t rest ht => ?_⟩
      have hopen : Composer.run? ⟨handles, outer :: frames, .node .none, anchors, size, root?⟩
          (itemTokens (item :: more) ++ t :: rest) = Composer.run? ⟨handles,
            .looseSequence .none [] :: outer :: frames, .between, anchors, size + 2, root?⟩
              (itemTokens (item :: more) ++ t :: rest) := by
        rw [itemTokens, List.cons_append, List.cons_append, run?_cons, run?_cons,
          step?_loose rfl rfl, step?_item .loose rfl rfl]
        rfl
      have hend := step?_looseEnd ht
        (c := ⟨handles, .looseSequence .none ((nodesOfItems (item :: more)).reverse ++ []) ::
          outer :: frames, .between, anchors, n, root?⟩) rfl rfl
      rw [List.append_nil, List.reverse_reverse] at hend
      rw [shortValueTokens, hopen, hitems, List.append_nil, run?_cons, run?_cons, hend]
      rfl
  | .record fields, _, _, _, _, hplace, hframes => by
      have h := composes_value (.record fields) hplace (allowsBlock_of_mapping hframes)
      cases fields <;> exact h.inField
  | .null, _, _, _, _, hplace, hframes =>
      (composes_value .null hplace (allowsBlock_of_mapping hframes)).inField
  | .flag b, _, _, _, _, hplace, hframes =>
      (composes_value (.flag b) hplace (allowsBlock_of_mapping hframes)).inField
  | .number n, _, _, _, _, hplace, hframes =>
      (composes_value (.number n) hplace (allowsBlock_of_mapping hframes)).inField
  | .text s, _, _, _, _, hplace, hframes =>
      (composes_value (.text s) hplace (allowsBlock_of_mapping hframes)).inField
  | .list [], _, _, _, _, hplace, hframes =>
      (composes_value (.list []) hplace (allowsBlock_of_mapping hframes)).inField

theorem run?_items : ∀ (items : List Data) {frame : List Node → Frame} (_ : IsSequence frame)
    {c : Composer} {acc : List Node} {frames : List Frame} (_ : c.place = .between)
    (_ : c.frames = frame acc :: frames), ∃ n, ∀ rest, c.run? (itemTokens items ++ rest) =
      { c with
        frames := frame ((nodesOfItems items).reverse ++ acc) :: frames
        size := n }.run? rest
  | [], frame, hframe, c, acc, frames, hplace, hframes => ⟨c.size, fun rest => by
      rcases c with ⟨handles, _, place, anchors, size, root?⟩
      cases hframes
      rfl⟩
  | item :: more, frame, hframe, c, acc, frames, hplace, hframes => by
      rcases c with ⟨handles, _, _, anchors, size, root?⟩
      cases hplace
      cases hframes
      have hblock : Composer.allowsBlock ⟨handles, frame acc :: frames, .node .none, anchors, size,
          root?⟩ = true := by
        cases hframe <;> rfl
      rcases composes_value item rfl hblock with ⟨n, hvalue⟩
      have hput : Composer.put ⟨handles, frame acc :: frames, .node .none, anchors, n, root?⟩
          (nodeOf item) = ⟨handles, frame (nodeOf item :: acc) :: frames, .between, anchors, n,
            root?⟩ := by
        cases hframe <;> rfl
      rcases run?_items more hframe (c := ⟨handles, frame (nodeOf item :: acc) :: frames, .between,
        anchors, n, root?⟩) rfl rfl with ⟨n', hmore⟩
      refine ⟨n', fun rest => ?_⟩
      rw [itemTokens, List.append_assoc, List.cons_append, run?_cons, step?_item hframe rfl rfl,
        Option.bind_some, hvalue, hput, hmore, nodesOfItems, List.reverse_cons, List.append_assoc]
      rfl

/-- The fields of a mapping, up to its end. -/
theorem run?_fields : ∀ (fields : List (String × Data)) {c : Composer}
    {entries : List (Node × Node)} {frames : List Frame} (_ : c.place = .between)
    (_ : c.frames = .blockMapping .none entries none :: frames), ∃ n, ∀ rest,
      c.run? (fieldTokens fields ++ .blockEnd :: rest) =
        { c with
          frames := .blockMapping .none ((entriesOfFields fields).reverse ++ entries) none :: frames
          size := n }.run? (.blockEnd :: rest)
  | [], c, entries, frames, hplace, hframes => ⟨c.size, fun rest => by
      rcases c with ⟨handles, _, place, anchors, size, root?⟩
      cases hframes
      rfl⟩
  | (name, value) :: more, c, entries, frames, hplace, hframes => by
      rcases c with ⟨handles, _, _, anchors, size, root?⟩
      cases hplace
      cases hframes
      let key : Node := .scalar none (styleOf name) name
      let waiting : List Frame := .blockMapping .none entries (some key) :: frames
      let filled : List Frame :=
        .blockMapping .none ((key, nodeOf value) :: entries) none :: frames
      have hvalue : Composer.ComposesInField
          ⟨handles, waiting, .node .none, anchors, size + 1, root?⟩
          (if isShortKey name then shortValueTokens value else valueTokens value)
          (nodeOf value) := by
        split
        · exact composes_shortValue value rfl rfl
        · exact (composes_value value rfl rfl).inField
      rcases hvalue with ⟨n, hvalue⟩
      rcases run?_fields more (c := ⟨handles, filled, .between, anchors, n, root?⟩) rfl rfl with
        ⟨n', hmore⟩
      refine ⟨n', fun rest => ?_⟩
      rcases fieldTokens_append more rest with ⟨t, tokens, htokens, ht⟩
      have hname : ∀ tokens, Composer.run?
          ⟨handles, .blockMapping .none entries none :: frames, .node .none, anchors, size, root?⟩
          (.scalar (styleOf name) name :: tokens) =
            Composer.run? ⟨handles, waiting, .between, anchors, size + 1, root?⟩ tokens :=
        run?_scalar rfl rfl _ _
      have hput : Composer.put ⟨handles, waiting, .node .none, anchors, n, root?⟩ (nodeOf value) =
          ⟨handles, filled, .between, anchors, n, root?⟩ := rfl
      rw [fieldTokens, List.append_assoc, htokens, List.cons_append, List.cons_append,
        List.cons_append, run?_cons, step?_key rfl rfl, Option.bind_some, hname, run?_cons,
        step?_value rfl rfl, Option.bind_some, hvalue t tokens ht, hput, ← htokens, hmore,
        entriesOfFields, List.reverse_cons, List.append_assoc]
      rfl

end

end Composer

end Yaml

end Manuscript
