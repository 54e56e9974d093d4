import Manuscript.Yaml.Node.Composer
import Manuscript.Yaml.Token.Reading

/-!
# Reading Documents

The tree of a YAML text. A text holds one document at most. Directives may
stand before its start marker: at most one for the version, which has to be
1.1 or 1.2, and one for each handle of tags. After the document nothing may
come but end markers.

A text without a document, such as one of comments alone, has a tree without
a root.

## Main definitions

* `Yaml.Directives`: What the directives of a document say.
* `Yaml.Tree.ofTokens?`: The tree of a sequence of tokens.
* `Yaml.Tree.read?`: The tree of a text.
-/

namespace Manuscript

namespace Yaml

/-- What the directives of a document say. -/
structure Directives where
  hasVersion : Bool
  /-- The starts of tags by handle. -/
  handles : List (String × Tag)

namespace Directives

/-- No directives. -/
def none : Directives := ⟨false, []⟩

/-- The starts of tags that handles stand for unless a directive says otherwise. -/
def standardHandles : List (String × Tag) := [("!", .bare), ("!!", .coreStem)]

/-- The composer in front of the root. -/
def composer (d : Directives) : Composer := .start (d.handles ++ standardHandles)

end Directives

/-- The composer that has taken all tokens of a document's root, from the first of the root on. -/
def Composer.run? (c : Composer) (tokens : List Token) : Option Composer := tokens.foldlM step? c

/-- The finished tree. -/
def Composer.tree? (c : Composer) : Option Tree :=
  match c.frames, c.place, c.root? with
  | [], .between, some root => c.anchors.targets?.map fun targets => ⟨some root, targets, c.size⟩
  | _, _, _ => none

/-- The tree of what follows a start marker. The root may be left out there. -/
def Tree.ofMarked? (d : Directives) : List Token → Option Tree
  | [.finish] => some ⟨some .empty, [], 1⟩
  | .documentEnd :: rest => (d.composer.leaveOut .none).run? rest >>= Composer.tree?
  | tokens => d.composer.run? tokens >>= Composer.tree?

/-- The tree of a document from its directives on, some of which were read. -/
def Tree.ofDirectives? (d : Directives) : List Token → Option Tree
  | .versionDirective major minor :: rest =>
    if d.hasVersion || major ≠ 1 || (minor ≠ 1 && minor ≠ 2) then none
    else ofDirectives? { d with hasVersion := true } rest
  | .tagDirective handle stem :: rest =>
    if (d.handles.lookup handle).isSome then none
    else ofDirectives? { d with handles := (handle, stem) :: d.handles } rest
  | .documentStart :: rest => ofMarked? d rest
  | _ => none

/-- The tree of a sequence of tokens. -/
def Tree.ofTokens? : List Token → Option Tree
  | [.finish] => some ⟨none, [], 1⟩
  | .versionDirective major minor :: rest =>
    ofDirectives? .none (.versionDirective major minor :: rest)
  | .tagDirective handle stem :: rest => ofDirectives? .none (.tagDirective handle stem :: rest)
  | .documentStart :: rest => ofDirectives? .none (.documentStart :: rest)
  | tokens => Directives.none.composer.run? tokens >>= Composer.tree?

/-- The tree of a text. -/
def Tree.read? (text : String) : Option Tree := (readTokens? text.toList).bind ofTokens?

end Yaml

end Manuscript
