import Manuscript.Yaml.Scalar.Folding

/-!
# Plain Scalars

Scalars without quotes. A plain scalar ends before a comment, before a colon
that is followed by a blank, and in a flow collection before a character that
separates or closes. It may go on over several lines as long as these are
indented more than the collection around it, which a flow collection does not
ask for. A line that marks a document ends it too.

In a flow collection a colon that is directly followed by another indicator
is refused, and so is a tab that stands for indentation.

## Main definitions

* `Yaml.readPlain`: Reads a plain scalar.
-/

namespace Manuscript

namespace Yaml

/-- Whether the character separates or closes in a flow collection. -/
def isFlowIndicator (c : Char) : Bool := c = ',' || c = '[' || c = ']' || c = '{' || c = '}'

/-- A plain scalar that was read. -/
structure PlainScalar where
  text : String
  /-- Whether a line break comes between the scalar and the cursor. -/
  endsLine : Bool
  /-- Where the token after the scalar may start. -/
  next : Cursor

/-- Whether a plain scalar ends where the text goes on after a gap. -/
def gapEndsPlain (inFlow : Bool) (indent : Nat) (gap : Gap) (m : Mark) (cs : List Char) : Bool :=
  (m.column = 0 && marksDocument cs) || (gap != .empty && cs.head? = some '#') ||
    (gap.isBroken && !inFlow && m.column < indent)

/-- Reads on in a plain scalar. What is read is held last character first, and the gap after it is
    not part of the scalar unless more text follows. -/
def readPlain (inFlow : Bool) (indent : Nat) (out : List Char) (gap : Gap) (m : Mark) :
    List Char → Option PlainScalar
  | '\r' :: '\n' :: cs => readPlain inFlow indent out (gap.addBreak '\n') (m.newline 2) cs
  | c :: cs =>
    if isBreak c then readPlain inFlow indent out (gap.addBreak c) (m.newline c.utf8Size) cs
    else if isGap c then
      if c = '\t' && gap.isBroken && m.column < indent then none
      else readPlain inFlow indent out (gap.addBlank c) (m.step c) cs
    else if gapEndsPlain inFlow indent gap m (c :: cs) then
      some ⟨String.ofList out.reverse, gap.isBroken, ⟨m, c :: cs⟩⟩
    else if inFlow && c = ':' && cs.head?.any (fun d => isFlowIndicator d || d = '?') then none
    else if (c = ':' && endsWord cs) || (inFlow && isFlowIndicator c) then
      some ⟨String.ofList out.reverse, gap.isBroken, ⟨m, c :: cs⟩⟩
    else readPlain inFlow indent (c :: (gap.folded ++ out)) .empty (m.step c) cs
  | [] => some ⟨String.ofList out.reverse, gap.isBroken, ⟨m, []⟩⟩

end Yaml

end Manuscript
