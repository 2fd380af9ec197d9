/-!
A token is a scalar, a property of a node, or a mark of structure. Block collections have no
brackets of their own, so their starts and ends are tokens that the indentation gives.
-/

namespace LayeredConfig.Document.Yaml

inductive Token where
  | version
  | handle (name : String) (expansion : String)
  | documentStart
  | documentEnd
  | blockSequence
  | blockMapping
  | blockEnd
  | flowSequence
  | flowSequenceEnd
  | flowMapping
  | flowMappingEnd
  | item
  | separator
  | key
  | value
  | anchor (name : String)
  | alias (name : String)
  | tag (handle : String) (suffix : String)
  | plain (text : String)
  | quoted (text : String)
  deriving DecidableEq, Repr, Inhabited

end LayeredConfig.Document.Yaml
