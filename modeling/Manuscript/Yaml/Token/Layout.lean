import Manuscript.Yaml.Cursor
import Manuscript.Yaml.Token

/-!
# Layout

What has to be known while a text is split into tokens: how deep the block
collections are indented that are open, and where a key may have started.

A key is a node with a colon after it. When a node starts where a key may
stand, its place is noted. If the colon comes on the same line and at most
1024 octets later, the tokens of the key, and of a new mapping where the
indentation asks for one, are put in front of the node after the fact. A node
that starts at the very indentation of an open block collection has to turn
out to be a key.

Each flow collection that is open has a candidate of its own, and within flow
collections indentation means nothing.

## Main definitions

* `Yaml.KeyCandidate`: Where a key may have started.
* `Yaml.Layout`: The tokens so far and what has to be known for the next one.
* `Yaml.Layout.indentTo`, `Yaml.Layout.dedentTo`: Opening and closing block
  collections.
* `Yaml.Layout.noteKey?`, `Yaml.Layout.dropKey?`: Noting and dropping a
  candidate.
-/

namespace Manuscript

namespace Yaml

/-- A place where a key may have started. -/
structure KeyCandidate where
  /-- Whether the node there has to turn out to be a key. -/
  required : Bool
  /-- How many tokens come before the node. -/
  tokenIndex : Nat
  mark : Mark

/-- Whether a colon at the mark can still make the candidate a key. -/
def KeyCandidate.isOpen (k : KeyCandidate) (m : Mark) : Bool :=
  k.mark.line = m.line && m.index ≤ k.mark.index + 1024

/-- The tokens of a text up to a cursor, and what is open there. -/
structure Layout where
  cursor : Cursor
  /-- The tokens so far, last first. -/
  tokens : List Token
  /-- How many tokens there are. -/
  count : Nat
  /-- The columns of the open block collections, innermost first. -/
  indents : List Nat
  /-- The candidate of the innermost flow collection, or outside of all of them. -/
  key? : Option KeyCandidate
  /-- The candidates of the collections around it, one for each open flow collection. -/
  outerKeys : List (Option KeyCandidate)
  /-- Whether a key can start at the cursor. -/
  keyAllowed : Bool

namespace Layout

/-- The start of a text. -/
def start (text : List Char) : Layout := ⟨⟨.start, text⟩, [], 0, [], none, [], true⟩

/-- Whether a flow collection is open. -/
def inFlow (l : Layout) : Bool := !l.outerKeys.isEmpty

/-- The column of the innermost open block collection. -/
def indent? (l : Layout) : Option Nat := l.indents.head?

/-- Adds a token at the end. -/
def push (l : Layout) (t : Token) : Layout :=
  { l with tokens := t :: l.tokens, count := l.count + 1 }

/-- Adds a token so that `index` tokens come before it. -/
def insert (l : Layout) (index : Nat) (t : Token) : Layout :=
  { l with tokens := l.tokens.insertIdx (l.count - index) t, count := l.count + 1 }

/-- Adds the token of an indicator of so many octets, after which a key can start or not. -/
def indicator (l : Layout) (t : Token) (width : Nat) (keyAllowed : Bool) : Layout :=
  { l.push t with cursor := l.cursor.advance width, keyAllowed }

/-- Opens a block collection at a column that is deeper than the innermost open one. Its token
    comes after `index` others. -/
def indentTo (l : Layout) (column index : Nat) (t : Token) : Layout :=
  if l.inFlow || l.indent?.any (column ≤ ·) then l
  else { l.insert index t with indents := column :: l.indents }

/-- Closes the block collections of the given columns that are deeper than the limit. -/
def closeDeeper (keep : Nat → Bool) (l : Layout) : List Nat → Layout
  | [] => { l with indents := [] }
  | column :: rest =>
    if keep column then { l with indents := column :: rest }
    else closeDeeper keep (l.push .blockEnd) rest

/-- Closes the block collections that are deeper than a column. -/
def dedentTo (l : Layout) (column : Nat) : Layout :=
  if l.inFlow then l else l.closeDeeper (· ≤ column) l.indents

/-- Closes every block collection. -/
def dedentAll (l : Layout) : Layout :=
  if l.inFlow then l else l.closeDeeper (fun _ => false) l.indents

/-- Drops the candidate. One that has to turn out to be a key may not be dropped. -/
def dropKey? (l : Layout) : Option Layout :=
  match l.key? with
  | some k => if k.required then none else some { l with key? := none }
  | none => some l

/-- Notes that a node starts at the cursor, in case it turns out to be a key. -/
def noteKey? (l : Layout) : Option Layout :=
  if l.keyAllowed then do
    let l ← l.dropKey?
    let required := !l.inFlow && l.indent? = some l.cursor.column
    return { l with key? := some ⟨required, l.count, l.cursor.mark⟩ }
  else some l

/-- Opens a flow collection. -/
def openFlow (l : Layout) : Layout := { l with key? := none, outerKeys := l.key? :: l.outerKeys }

/-- Closes a flow collection. The end of one that is not open is left to the grammar. -/
def closeFlow (l : Layout) : Layout :=
  match l.outerKeys with
  | k :: rest => { l with key? := k, outerKeys := rest }
  | [] => l

/-- Makes the candidate the key of the colon at the cursor. -/
def closeKey (l : Layout) (k : KeyCandidate) : Layout :=
  (({ l with key? := none }.insert k.tokenIndex .key).indentTo k.mark.column k.tokenIndex
    .blockMappingStart).indicator .value 1 false

end Layout

end Yaml

end Manuscript
