import Manuscript.Yaml.Token

/-!
# YAML Nodes

The tree that a YAML document describes. A node is a scalar, a sequence, a
mapping, or a reference to a node that has an anchor. Any node but a reference
may carry a tag.

Scalars keep their style, because what a plain scalar means is decided by its
text, while a scalar in quotes is text in any case.

Nodes with an anchor are kept in slots beside the tree. The slot of an anchor
is how many different names are known where it is defined, so a name that is
defined anew gets a slot of its own, and a slot that is taken again belongs to
the last node that took it.

## Main definitions

* `Yaml.Node`: A node.
* `Yaml.Tree`: A document: its root, the nodes that can be referred to, and
  its size.
-/

namespace Manuscript

namespace Yaml

/-- A node of a document. -/
inductive Node where
  | scalar (tag? : Option Tag) (style : ScalarStyle) (text : String)
  | sequence (tag? : Option Tag) (items : List Node)
  | mapping (tag? : Option Tag) (entries : List (Node × Node))
  /-- A reference to the node in a slot. -/
  | alias (slot : Nat)

namespace Node

/-- A node that is left out. -/
def empty : Node := scalar none .plain ""

/-- Text in double quotes. -/
def text (s : String) : Node := scalar none .doubleQuoted s

/-- A scalar without quotes. -/
def plain (s : String) : Node := scalar none .plain s

/-- A sequence without a tag. -/
def list (items : List Node) : Node := sequence none items

/-- A mapping without a tag, with texts as keys. -/
def record (fields : List (String × Node)) : Node :=
  mapping none (fields.map fun (name, value) => (text name, value))

end Node

/-- A document. -/
structure Tree where
  /-- The root; a text without any document has none. -/
  root? : Option Node
  /-- The node of each slot. -/
  targets : List Node
  /-- How many scalars and references there are, with each sequence and mapping counted twice. -/
  size : Nat

/-- A tree without references. -/
def Tree.ofNode (n : Node) : Tree := ⟨some n, [], 0⟩

end Yaml

end Manuscript
