import Manuscript.Yaml.Node
import Std.Data.ExtTreeMap

/-!
# Anchors

The anchors that were met while a document is read. An anchor is defined where
its node starts, so a reference within the node already finds it, but the node
itself is known only where it ends. Each definition is therefore numbered, and
the node is filed under that number when it is finished.

## Main definitions

* `Yaml.Anchors`: The definitions so far.
* `Yaml.Anchors.define`: Adds a definition.
* `Yaml.Anchors.slot?`: The slot of a name.
* `Yaml.Anchors.targets?`: The node of each slot.
-/

namespace Manuscript

namespace Yaml

/-- The anchors so far. -/
structure Anchors where
  /-- The slot of each name. -/
  names : Std.ExtTreeMap String Nat
  /-- How many definitions there are. -/
  count : Nat
  /-- The number of the last definition that took each slot. The slots that are taken are the
      first ones, because a definition takes the one after those of all names that are known. -/
  owners : Std.ExtTreeMap Nat Nat
  /-- The finished node of each definition. -/
  nodes : Std.ExtTreeMap Nat Node

namespace Anchors

/-- No anchors. -/
def empty : Anchors := ⟨∅, 0, ∅, ∅⟩

/-- The slot a name refers to. -/
def slot? (a : Anchors) (name : String) : Option Nat := a.names[name]?

/-- Defines a name and tells the number of the definition. -/
def define (a : Anchors) (name : String) : Nat × Anchors :=
  let slot := a.names.size
  (a.count, { a with
    names := a.names.insert name slot
    count := a.count + 1
    owners := a.owners.insert slot a.count })

/-- Files a finished node, if it has a definition. -/
def file (a : Anchors) (definition? : Option Nat) (n : Node) : Anchors :=
  match definition? with
  | some d => { a with nodes := a.nodes.insert d n }
  | none => a

/-- The node of a slot. -/
def target? (a : Anchors) (slot : Nat) : Option Node := a.owners[slot]?.bind (a.nodes[·]?)

/-- The node of each slot in order. -/
def targets? (a : Anchors) : Option (List Node) := (List.range a.owners.size).mapM a.target?

end Anchors

end Yaml

end Manuscript
