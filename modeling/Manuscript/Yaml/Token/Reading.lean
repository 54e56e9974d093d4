import Manuscript.Yaml.Scalar.Block
import Manuscript.Yaml.Scalar.Plain
import Manuscript.Yaml.Scalar.Quoted
import Manuscript.Yaml.Token.Layout
import Manuscript.Yaml.Token.Property

/-!
# Reading Tokens

Splitting YAML text into tokens. Each step goes to the next word, closes the
block collections that it is not indented into, and reads the token that its
first characters announce. The end of the text closes what is open.

Layout asks for more than the characters do. The indicators of block entries,
keys and values have to stand where a key can start, and the node at the
indentation of a block collection has to be a key.

## Main definitions

* `Yaml.Layout.next?`: The step to the next token.
* `Yaml.readTokens?`: The tokens of a text.
-/

namespace Manuscript

namespace Yaml

namespace Layout

/-- Reads a node's token, which may be the start of a key. -/
def node? (l : Layout) (read : Cursor → Option (Token × Cursor)) : Option Layout := do
  let l ← l.noteKey?
  let (t, cursor) ← read l.cursor
  return { l.push t with cursor, keyAllowed := false }

/-- Reads a token that stands outside of every block collection. -/
def outside? (l : Layout) (read : Cursor → Option (Token × Cursor)) : Option Layout := do
  let l ← l.dedentAll.dropKey?
  let (t, cursor) ← read l.cursor
  return { l.push t with cursor, keyAllowed := false }

/-- Reads the start of a flow collection. -/
def flowStart? (l : Layout) (t : Token) : Option Layout := do
  let l ← l.noteKey?
  return l.openFlow.indicator t 1 true

/-- Reads the end of a flow collection. -/
def flowEnd? (l : Layout) (t : Token) : Option Layout := do
  let l ← l.dropKey?
  return l.closeFlow.indicator t 1 false

/-- Reads the comma between two entries of a flow collection. -/
def flowEntry? (l : Layout) : Option Layout := do
  let l ← l.dropKey?
  return l.indicator .flowEntry 1 true

/-- Opens a block collection at the cursor, if it is deeper. The place has to be one where a key
    can start. -/
def openBlock? (l : Layout) (t : Token) : Option Layout :=
  if l.inFlow then some l
  else if l.keyAllowed then some (l.indentTo l.cursor.column l.count t)
  else none

/-- Reads the indicator of a block entry. -/
def blockEntry? (l : Layout) : Option Layout := do
  let l ← (← l.openBlock? .blockSequenceStart).dropKey?
  return l.indicator .blockEntry 1 true

/-- Reads the indicator of a key. -/
def keyEntry? (l : Layout) : Option Layout := do
  let l ← (← l.openBlock? .blockMappingStart).dropKey?
  return l.indicator .key 1 (!l.inFlow)

/-- Reads the indicator of a value. The key before it is the candidate, if that is still open;
    otherwise the value has no key of its own. -/
def value? (l : Layout) : Option Layout :=
  match l.key?.filter (·.isOpen l.cursor.mark) with
  | some k => some (l.closeKey k)
  | none =>
    if l.key?.any (·.required) then none
    else do
      let l ← l.openBlock? .blockMappingStart
      return l.indicator .value 1 (!l.inFlow)

/-- Reads a block scalar, which is never a key. -/
def block? (l : Layout) (style : ScalarStyle) : Option Layout := do
  let l ← l.dropKey?
  let (text, cursor) ← readBlock? (style = .folded) l.indent? l.cursor
  return { l.push (.scalar style text) with cursor, keyAllowed := true }

/-- Reads a plain scalar. After one that ends before a line break a key can start. -/
def plain? (l : Layout) : Option Layout := do
  let l ← l.noteKey?
  let indent := l.indent?.elim 0 (· + 1)
  let found ← readPlain l.inFlow indent [] .empty l.cursor.mark l.cursor.rest
  return { l.push (.scalar .plain found.text) with
    cursor := found.next, keyAllowed := found.endsLine }

/-- Whether a plain scalar can start with the characters. -/
def startsPlain (inFlow : Bool) : List Char → Bool
  | [] => false
  | c :: cs =>
    if c = '-' then !cs.head?.any isGap
    else if c = '?' || c = ':' then !inFlow && !endsWord cs
    else !(isGap c || ",[]\x7b\x7d#&*!|>'\"%@`".toList.contains c)

/-- Reads a scalar in quotes. -/
def quoted (style : ScalarStyle) (read : Mark → List Char → Option (String × Cursor))
    (c : Cursor) : Option (Token × Cursor) := do
  let (text, next) ← read (c.mark.steps 1) c.rest.tail
  return (.scalar style text, next)

/-- Reads the name of a node or the reference to one. -/
def named (token : String → Token) (c : Cursor) : Option (Token × Cursor) := do
  let (name, next) ← readName? c
  return (token name, next)

/-- Reads the marker of a document's start or end. -/
def marker (token : Token) (c : Cursor) : Option (Token × Cursor) := some (token, c.advance 3)

/-- Reads the token that the first characters announce. -/
def token? (l : Layout) : Option Layout :=
  let atLineStart := l.cursor.column = 0
  match l.cursor.rest with
  | [] => none
  | c :: cs =>
    if atLineStart && c = '%' then l.outside? readDirective?
    else if atLineStart && marksDocument (c :: cs) then
      l.outside? (marker (if c = '-' then .documentStart else .documentEnd))
    else if c = '[' then l.flowStart? .flowSequenceStart
    else if c = '{' then l.flowStart? .flowMappingStart
    else if c = ']' then l.flowEnd? .flowSequenceEnd
    else if c = '}' then l.flowEnd? .flowMappingEnd
    else if c = ',' then l.flowEntry?
    else if c = '-' && endsWord cs then l.blockEntry?
    else if c = '?' && (l.inFlow || endsWord cs) then l.keyEntry?
    else if c = ':' && (l.inFlow || endsWord cs) then l.value?
    else if c = '*' then l.node? (named .alias)
    else if c = '&' then l.node? (named .anchor)
    else if c = '!' then l.node? (readTag? l.inFlow)
    else if c = '|' && !l.inFlow then l.block? .literal
    else if c = '>' && !l.inFlow then l.block? .folded
    else if c = '\'' then l.node? (quoted .singleQuoted (readSingle [] .empty))
    else if c = '"' then l.node? (quoted .doubleQuoted (readDouble [] .empty))
    else if startsPlain l.inFlow (c :: cs) then l.plain?
    else none

/-- The step to the next token. -/
def next? (l : Layout) : Option Layout :=
  let (keyAllowed, cursor) :=
    toToken l.inFlow l.keyAllowed false l.cursor.mark l.cursor.rest
  let l := { l with keyAllowed, cursor }
  if cursor.rest.isEmpty then some l else (l.dedentTo cursor.column).token?

/-- Closes what is open at the end of a text. -/
def finish? (l : Layout) : Option (List Token) := do
  let l ← l.dedentAll.dropKey?
  return (l.push .finish).tokens.reverse

/-- Takes steps until the text ends, at most so many. -/
def run? : Nat → Layout → Option (List Token)
  | 0, _ => none
  | steps + 1, l =>
    match l.next? with
    | none => none
    | some l => if l.cursor.rest.isEmpty then l.finish? else run? steps l

end Layout

/-- The tokens of a text. Every step reads a character, so there are no more steps than
    characters. -/
def readTokens? (text : List Char) : Option (List Token) :=
  if text.all isReadable then (Layout.start text).run? (text.length + 1) else none

end Yaml

end Manuscript
