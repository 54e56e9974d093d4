import Manuscript.Yaml.Tag

/-!
# Tokens of YAML Text

The tokens of which YAML text consists. Some stand for indicators that are in
the text. Others stand for layout: a block sequence or mapping begins and ends
where the indentation says so, and a key is known as such only by the colon
after it, so its token comes before that of its first word.

The last token of every text is its end.

## Main definitions

* `Yaml.ScalarStyle`: The ways to write a scalar.
* `Yaml.Token`: A token.
-/

namespace Manuscript

namespace Yaml

/-- The ways to write a scalar. -/
inductive ScalarStyle where
  | plain
  | singleQuoted
  | doubleQuoted
  | literal
  | folded
deriving DecidableEq, Repr

/-- A token of YAML text. -/
inductive Token where
  /-- The directive that names the version of the format. -/
  | versionDirective (major minor : Nat)
  /-- The directive that lets a handle stand for the start of tags. -/
  | tagDirective (handle : String) (stem : Tag)
  | documentStart
  | documentEnd
  | blockSequenceStart
  | blockMappingStart
  /-- The end of a block sequence or mapping. -/
  | blockEnd
  | flowSequenceStart
  | flowSequenceEnd
  | flowMappingStart
  | flowMappingEnd
  | blockEntry
  | flowEntry
  | key
  | value
  | alias (name : String)
  | anchor (name : String)
  | tag (handle : String) (suffix : Tag)
  | scalar (style : ScalarStyle) (text : String)
  /-- The end of the text. -/
  | finish
deriving DecidableEq, Repr

end Yaml

end Manuscript
