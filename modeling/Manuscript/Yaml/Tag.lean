/-!
# Tags

What a node says about its type. A tag is a text, but it is kept as the octets
of that text: any octet may be written into a tag after a percent sign, so the
octets need not be the encoding of characters at all. No octet is zero, because
a tag ends before the first one.

The tags of the format's own types share a stem. A tag that starts with an
exclamation mark is local to its document.

## Main definitions

* `Yaml.Tag`: A tag.
* `Yaml.Tag.ofOctets`: The tag of octets that were read.
* `Yaml.Tag.core`: The tags of the format's own types.
* `Yaml.Tag.isLocal`, `Yaml.Tag.isNamed`: Whether a tag is local, and whether
  its name is a text.
-/

namespace Manuscript

namespace Yaml

/-- The octets of a tag. -/
structure Tag where
  octets : List UInt8
deriving DecidableEq, Repr

namespace Tag

/-- The tag that octets make up, which ends before the first zero. -/
def ofOctets (octets : List UInt8) : Tag := ⟨octets.takeWhile fun o => o ≠ 0⟩

/-- The tag of a text. -/
def ofText (text : String) : Tag := ofOctets (text.toList.flatMap String.utf8EncodeChar)

/-- A tag in two parts. -/
def append (stem suffix : Tag) : Tag := ⟨stem.octets ++ suffix.octets⟩

/-- Whether there is nothing in the tag. -/
def isEmpty (t : Tag) : Bool := t.octets.isEmpty

/-- The exclamation mark alone. -/
def bare : Tag := ofText "!"

/-- What the tags of the format's own types start with. -/
def coreStem : Tag := ofText "tag:yaml.org,2002:"

/-- The tag of one of the format's own types. -/
def core (name : String) : Tag := coreStem.append (ofText name)

/-- Whether the tag is one that a document defines for itself. -/
def isLocal (t : Tag) : Bool := t.octets.head? = some 0x21

/-- Whether the tag is local and what follows the exclamation mark is a text. -/
def isNamed (t : Tag) : Bool :=
  t.isLocal && (String.fromUTF8? t.octets.tail.toByteArray).isSome

end Tag

end Yaml

end Manuscript
