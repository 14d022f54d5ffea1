/-!
# The tokens of YAML text

The pieces that a YAML text is made of. Indentation shows as tokens that begin and end blocks.
-/

namespace FolderTalk.Yaml

/-- A line that begins with a percent sign. -/
inductive Directive where
  | version (major : Nat)
  | tagHandle (handle uri : List Char)
  | unknown
  deriving DecidableEq, Repr

/-- The pieces of YAML text. -/
inductive Token where
  | directive (d : Directive)
  | documentStart | documentEnd
  | blockList | blockMap | blockEnd
  | openList | closeList | openMap | closeMap
  | blockEntry | flowEntry | key | value
  | alias (name : List Char)
  | anchor (name : List Char)
  /-- The kind of a node, with the handle that stands for the beginning of the kind's name. -/
  | tag (handle : Option (List Char)) (suffix : List Char)
  | scalar (text : List Char) (plain : Bool)
  deriving DecidableEq, Repr

end FolderTalk.Yaml
