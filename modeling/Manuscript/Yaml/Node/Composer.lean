import Manuscript.Yaml.Node.Anchors

/-!
# Composing Nodes

Nodes are put together while the tokens go by. The collections that are open
form a stack of frames, each with the entries it has so far, and the composer
knows whether a node or something between two entries has to come next.

A node may be left out where its indicator is there but a token follows that
cannot start it, and a key may come without a value. Both stand for an empty
scalar. A block sequence that is not indented more than the mapping around it
has no token for its end; it ends where no further entry comes. All of this is
settled before the token itself is taken.

## Main definitions

* `Yaml.Frame`: An open collection.
* `Yaml.Composer`: The open collections and what has to come next.
* `Yaml.Composer.complete`: Puts a finished node where it belongs.
* `Yaml.Composer.step?`: Takes a token.
-/

namespace Manuscript

namespace Yaml

/-- What stands in front of a node. -/
structure Properties where
  /-- The number of the anchor's definition. -/
  definition? : Option Nat
  tag? : Option Tag

namespace Properties

/-- Nothing in front. -/
def none : Properties := ⟨Option.none, Option.none⟩

/-- Whether nothing is in front. -/
def isNone (p : Properties) : Bool := p.definition?.isNone && p.tag?.isNone

end Properties

/-- An open collection. Entries are held last first. -/
inductive Frame where
  | blockSequence (properties : Properties) (items : List Node)
  /-- A block sequence that is not indented more than the mapping around it. -/
  | looseSequence (properties : Properties) (items : List Node)
  /-- A block mapping, with the key whose value is still to come. -/
  | blockMapping (properties : Properties) (entries : List (Node × Node)) (key? : Option Node)
  | flowSequence (properties : Properties) (items : List Node)
  /-- A flow mapping, with the key whose value is still to come. A bare key has no indicator, and
      no value can follow it. -/
  | flowMapping (properties : Properties) (entries : List (Node × Node)) (key? : Option Node)
      (bare : Bool)
  /-- A mapping of one entry that is an item of the flow sequence around it. -/
  | flowPair (key? : Option Node)

/-- What has to come next. -/
inductive Place where
  /-- A node, of which the properties may be known already. -/
  | node (properties : Properties)
  /-- The first entry or the end of a flow collection, or what follows a comma in one. -/
  | opened
  /-- What follows a finished node. -/
  | between

/-- The open collections and what has to come next. -/
structure Composer where
  /-- The starts of tags by handle. -/
  handles : List (String × Tag)
  frames : List Frame
  place : Place
  anchors : Anchors
  size : Nat
  root? : Option Node

namespace Composer

/-- The composer in front of the root of a document. -/
def start (handles : List (String × Tag)) : Composer :=
  ⟨handles, [], .node .none, .empty, 0, none⟩

/-- Puts a finished node where it belongs. -/
def put (c : Composer) (n : Node) : Composer :=
  match c.frames with
  | [] => { c with root? := some n, place := .between }
  | .blockSequence p items :: rest =>
    { c with frames := .blockSequence p (n :: items) :: rest, place := .between }
  | .looseSequence p items :: rest =>
    { c with frames := .looseSequence p (n :: items) :: rest, place := .between }
  | .blockMapping p entries none :: rest =>
    { c with frames := .blockMapping p entries (some n) :: rest, place := .between }
  | .blockMapping p entries (some k) :: rest =>
    { c with frames := .blockMapping p ((k, n) :: entries) none :: rest, place := .between }
  | .flowSequence p items :: rest =>
    { c with frames := .flowSequence p (n :: items) :: rest, place := .between }
  | .flowMapping p entries none bare :: rest =>
    { c with frames := .flowMapping p entries (some n) bare :: rest, place := .between }
  | .flowMapping p entries (some k) _ :: rest =>
    { c with frames := .flowMapping p ((k, n) :: entries) none false :: rest, place := .between }
  | .flowPair none :: rest =>
    { c with frames := .flowPair (some n) :: rest, place := .between }
  | .flowPair (some k) :: .flowSequence p items :: rest =>
    let pair := Node.mapping none [(k, n)]
    { c with frames := .flowSequence p (pair :: items) :: rest, place := .between }
  | .flowPair (some _) :: rest => { c with frames := rest, place := .between }

/-- Puts a finished node where it belongs, and files it if it has an anchor. -/
def complete (c : Composer) (p : Properties) (n : Node) : Composer :=
  { c with anchors := c.anchors.file p.definition? n }.put n

/-- Puts an empty scalar where a node is left out. -/
def leaveOut (c : Composer) (p : Properties) : Composer :=
  { c with size := c.size + 1 }.complete p (.scalar p.tag? .plain "")

/-- Opens a collection. -/
def opening (c : Composer) (f : Frame) (next : Place) : Composer :=
  { c with frames := f :: c.frames, place := next, size := c.size + 2 }

/-- Whether block collections may stand here. -/
def allowsBlock (c : Composer) : Bool :=
  match c.frames with
  | .flowSequence .. :: _ => false
  | .flowMapping .. :: _ => false
  | .flowPair .. :: _ => false
  | _ => true

/-- Whether a block sequence that is not indented may stand here. -/
def allowsLoose (c : Composer) : Bool :=
  match c.frames with
  | .blockMapping .. :: _ => true
  | _ => false

/-- Whether the node that has to come is left out before a token. -/
def omits (c : Composer) (t : Token) : Bool :=
  match c.frames with
  | .blockSequence .. :: _ => t = .blockEntry || t = .blockEnd
  | .looseSequence .. :: _ => t = .blockEntry || t = .key || t = .value || t = .blockEnd
  | .blockMapping .. :: _ => t = .key || t = .value || t = .blockEnd
  | .flowMapping _ _ none _ :: _ => t = .value || t = .flowEntry || t = .flowMappingEnd
  | .flowMapping _ _ (some _) _ :: _ => t = .flowEntry || t = .flowMappingEnd
  | .flowPair none :: _ => t = .value || t = .flowEntry || t = .flowSequenceEnd
  | .flowPair (some _) :: _ => t = .flowEntry || t = .flowSequenceEnd
  | .flowSequence .. :: _ => false
  | [] => false

/-- Whether a token goes on with a node that has properties already. -/
def continues (c : Composer) (p : Properties) : Token → Bool
  | .anchor _ => p.definition?.isNone
  | .tag .. => p.tag?.isNone
  | .scalar .. => true
  | .flowSequenceStart => true
  | .flowMappingStart => true
  | .blockSequenceStart => c.allowsBlock
  | .blockMappingStart => c.allowsBlock
  | .blockEntry => c.allowsLoose
  | _ => false

/-- Settles a node that is left out before a token. -/
def settleNode (c : Composer) (t : Token) : Composer :=
  match c.place with
  | .node p =>
    if p.isNone then if c.omits t then c.leaveOut p else c
    else if c.continues p t then c else c.leaveOut p
  | _ => c

/-- Settles the end of a sequence that has no token for it. -/
def settleLoose (c : Composer) (t : Token) : Composer :=
  match c.place, c.frames with
  | .between, .looseSequence p items :: rest =>
    if t = .blockEntry then c
    else { c with frames := rest }.complete p (.sequence p.tag? items.reverse)
  | _, _ => c

/-- Settles a value that is left out before a token. -/
def settleValue (c : Composer) (t : Token) : Composer :=
  match c.place, c.frames with
  | .between, .blockMapping _ _ (some _) :: _ => if t = .value then c else c.leaveOut .none
  | .between, .flowMapping _ _ (some _) bare :: _ =>
    if t = .value && !bare then c else c.leaveOut .none
  | .between, .flowPair (some _) :: _ => if t = .value then c else c.leaveOut .none
  | _, _ => c

/-- The full tag of a handle and a suffix. -/
def fullTag? (c : Composer) (handle : String) (suffix : Tag) : Option Tag :=
  if handle.isEmpty then some suffix else (c.handles.lookup handle).map (·.append suffix)

/-- Takes a token where a node has to come. -/
def takeNode? (c : Composer) (p : Properties) : Token → Option Composer
  | .alias name =>
    if p.isNone then
      (c.anchors.slot? name).map fun slot => { c with size := c.size + 1 }.complete .none (.alias slot)
    else none
  | .anchor name =>
    if p.definition?.isNone then
      let (definition, anchors) := c.anchors.define name
      some { c with anchors, place := .node { p with definition? := some definition } }
    else none
  | .tag handle suffix =>
    if p.tag?.isNone then
      (c.fullTag? handle suffix).map fun tag => { c with place := .node { p with tag? := some tag } }
    else none
  | .scalar style text =>
    some ({ c with size := c.size + 1 }.complete p (.scalar p.tag? style text))
  | .flowSequenceStart => some (c.opening (.flowSequence p []) .opened)
  | .flowMappingStart => some (c.opening (.flowMapping p [] none false) .opened)
  | .blockSequenceStart =>
    if c.allowsBlock then some (c.opening (.blockSequence p []) .between) else none
  | .blockMappingStart =>
    if c.allowsBlock then some (c.opening (.blockMapping p [] none) .between) else none
  | .blockEntry =>
    if c.allowsLoose then some (c.opening (.looseSequence p []) (.node .none)) else none
  | _ => none

/-- Takes a token after the start of a flow collection or after a comma. -/
def takeOpened? (c : Composer) (t : Token) : Option Composer :=
  match c.frames, t with
  | .flowSequence p items :: rest, .flowSequenceEnd =>
    some ({ c with frames := rest }.complete p (.sequence p.tag? items.reverse))
  | .flowSequence .. :: _, .key => some (c.opening (.flowPair none) (.node .none))
  | .flowSequence .. :: _, t => c.takeNode? .none t
  | .flowMapping p entries _ _ :: rest, .flowMappingEnd =>
    some ({ c with frames := rest }.complete p (.mapping p.tag? entries.reverse))
  | .flowMapping .. :: _, .key => some { c with place := .node .none }
  | .flowMapping p entries key? _ :: rest, t =>
    { c with frames := .flowMapping p entries key? true :: rest }.takeNode? .none t
  | _, _ => none

/-- Takes a token after a finished node. -/
def takeBetween? (c : Composer) (t : Token) : Option Composer :=
  match c.frames, t with
  | [], .documentEnd => some c
  | [], .finish => some c
  | .blockSequence .. :: _, .blockEntry => some { c with place := .node .none }
  | .blockSequence p items :: rest, .blockEnd =>
    some ({ c with frames := rest }.complete p (.sequence p.tag? items.reverse))
  | .looseSequence .. :: _, .blockEntry => some { c with place := .node .none }
  | .blockMapping _ _ none :: _, .key => some { c with place := .node .none }
  | .blockMapping p entries none :: rest, .blockEnd =>
    some ({ c with frames := rest }.complete p (.mapping p.tag? entries.reverse))
  | .blockMapping _ _ (some _) :: _, .value => some { c with place := .node .none }
  | .flowSequence .. :: _, .flowEntry => some { c with place := .opened }
  | .flowSequence p items :: rest, .flowSequenceEnd =>
    some ({ c with frames := rest }.complete p (.sequence p.tag? items.reverse))
  | .flowMapping _ _ none _ :: _, .flowEntry => some { c with place := .opened }
  | .flowMapping p entries none _ :: rest, .flowMappingEnd =>
    some ({ c with frames := rest }.complete p (.mapping p.tag? entries.reverse))
  | .flowMapping _ _ (some _) _ :: _, .value => some { c with place := .node .none }
  | .flowPair (some _) :: _, .value => some { c with place := .node .none }
  | _, _ => none

/-- Takes a token for which everything before it is settled. -/
def take? (c : Composer) (t : Token) : Option Composer :=
  match c.place with
  | .node p => c.takeNode? p t
  | .opened => c.takeOpened? t
  | .between => c.takeBetween? t

/-- Whether a token is passed over: the one after the indicator of a key that is left out, in a
    pair of a flow sequence. -/
def passesOver (c : Composer) (t : Token) : Bool :=
  match c.place, c.frames with
  | .node p, .flowPair none :: _ => p.isNone && c.omits t
  | _, _ => false

/-- Takes a token. -/
def step? (c : Composer) (t : Token) : Option Composer :=
  if c.passesOver t then some (c.leaveOut .none)
  else (((c.settleNode t).settleLoose t).settleValue t).take? t

end Composer

end Yaml

end Manuscript
