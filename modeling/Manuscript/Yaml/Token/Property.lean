import Manuscript.Yaml.Cursor
import Manuscript.Yaml.Token
import Manuscript.Text.Numeral

/-!
# Names, Tags and Directives

The tokens that give a node a name or a tag, and the directives that may stand
before a document.

A tag is written in full between angle brackets, or as a handle and a suffix.
A handle is one exclamation mark, two, or a word between two. Octets may be
written in hexadecimal digits, each after a percent sign, in groups that have
the shape of the encoding of a character.

## Main definitions

* `Yaml.readName?`: Reads the name of an anchor or alias.
* `Yaml.readTag?`: Reads a tag.
* `Yaml.readDirective?`: Reads a directive.
-/

namespace Manuscript

namespace Yaml

/-- The cursor after a character that has to come next. -/
def Cursor.expect? (c : Cursor) (want : Char) : Option Cursor :=
  if c.rest.head? = some want then some (c.advance 1) else none

/-- Reads the name of an anchor or alias after its indicator. The name has to end with the word or
    before an indicator. -/
def readName? (c : Cursor) : Option (String × Cursor) :=
  let (name, next) := (c.advance 1).span isNameChar
  let ends := endsWord next.rest || next.rest.head?.any fun d => "?:,]\x7d%@`".toList.contains d
  if name.isEmpty || !ends then none else some (String.ofList name, next)

/-- Whether the character may stand in a tag as it is. Commas and brackets may do so only in a tag
    that is written in full. -/
def isTagChar (full : Bool) (c : Char) : Bool :=
  isNameChar c || ";/?:@&=+$.!~*'()".toList.contains c || (full && (c = ',' || c = '[' || c = ']'))

/-- How many octets follow the one that starts the encoding of a character. -/
def octetsAfter? (octet : Nat) : Option Nat :=
  if octet < 0x80 then some 0
  else if octet / 0x20 = 6 then some 1
  else if octet / 0x10 = 14 then some 2
  else if octet / 0x08 = 30 then some 3
  else none

/-- How many octets are still to come after one more, where so many are still to come before it. -/
def octetsLeft? (missing octet : Nat) : Option Nat :=
  match missing with
  | 0 => octetsAfter? octet
  | missing + 1 => if octet / 0x40 = 2 then some missing else none

/-- Reads on in a tag as far as its characters go. The octets that were read are held last first,
    and so many are still to come that are written after percent signs. -/
def readOctets (full : Bool) (out : List UInt8) (missing : Nat) (m : Mark) :
    List Char → Option (List UInt8 × Cursor)
  | '%' :: a :: b :: cs => do
    let octet ← Numeral.read? 16 [a, b]
    let missing ← octetsLeft? missing octet
    readOctets full (UInt8.ofNat octet :: out) missing (m.steps 3) cs
  | c :: cs =>
    if c = '%' || missing ≠ 0 then none
    else if isTagChar full c then readOctets full (UInt8.ofNat c.toNat :: out) 0 (m.step c) cs
    else some (out.reverse, ⟨m, c :: cs⟩)
  | [] => if missing ≠ 0 then none else some (out.reverse, ⟨m, []⟩)

/-- Reads a handle: an exclamation mark and, where there is a word after it or another one, all
    up to that. -/
def readHandle? (c : Cursor) : Option (List Char × Cursor) := do
  let c ← c.expect? '!'
  let (name, c) := c.span isNameChar
  match c.expect? '!' with
  | some c => return ('!' :: name ++ ['!'], c)
  | none => return ('!' :: name, c)

/-- Reads a tag in full, up to the closing bracket. -/
def readFullTag? (c : Cursor) : Option (Token × Cursor) := do
  let (octets, c) ← readOctets true [] 0 c.mark c.rest
  if octets.isEmpty then none else return (.tag "" (.ofOctets octets), ← c.expect? '>')

/-- Reads a tag that starts with a handle. What looks like a handle but does not end in an
    exclamation mark is the start of the suffix. -/
def readShortTag? (c : Cursor) : Option (Token × Cursor) := do
  let (handle, c) ← readHandle? c
  let (octets, c) ← readOctets false [] 0 c.mark c.rest
  if handle.length ≥ 2 ∧ handle.getLast? = some '!' then
    if octets.isEmpty then none else return (.tag (String.ofList handle) (.ofOctets octets), c)
  else
    let suffix := (Tag.ofText (String.ofList handle.tail)).append (.ofOctets octets)
    return (if suffix.isEmpty then .tag "" .bare else .tag "!" suffix, c)

/-- Reads a tag, which has to end with the word or before a comma of a flow collection. -/
def readTag? (inFlow : Bool) (c : Cursor) : Option (Token × Cursor) := do
  let (token, c) ← if c.rest[1]? = some '<' then readFullTag? (c.advance 2) else readShortTag? c
  if endsWord c.rest || (inFlow && c.rest.head? = some ',') then return (token, c) else none

/-- Reads one number of a version, of at most nine digits. -/
def readVersionNumber? (c : Cursor) : Option (Nat × Cursor) := do
  let (digits, c) := c.span Char.isDigit
  if digits.length > 9 then none else return (← Numeral.read? 10 digits, c)

/-- Reads what a version directive says. -/
def readVersion? (c : Cursor) : Option (Token × Cursor) := do
  let (major, c) ← readVersionNumber? c.skipGap
  let (minor, c) ← readVersionNumber? (← c.expect? '.')
  return (.versionDirective major minor, c)

/-- Reads what a tag directive says. A handle with a word in it has to be closed. -/
def readTagDirective? (c : Cursor) : Option (Token × Cursor) := do
  let (handle, c) ← readHandle? c.skipGap
  if handle.length ≥ 2 ∧ handle.getLast? ≠ some '!' then none
  if !(c.rest.head?.any isGap) then none
  let c := c.skipGap
  let (octets, c) ← readOctets true [] 0 c.mark c.rest
  if octets.isEmpty || !endsWord c.rest then none
  return (.tagDirective (String.ofList handle) (.ofOctets octets), c)

/-- Reads a directive and the line it stands on. A directive of any other name is refused. -/
def readDirective? (c : Cursor) : Option (Token × Cursor) := do
  let (name, c) := (c.advance 1).span isNameChar
  if !endsWord c.rest then none
  let (token, c) ←
    if name = "YAML".toList then readVersion? c
    else if name = "TAG".toList then readTagDirective? c
    else none
  return (token, ← c.endLine?)

end Yaml

end Manuscript
