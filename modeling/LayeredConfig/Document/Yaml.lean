import LayeredConfig.Document.Yaml.Layout
import LayeredConfig.Document.Yaml.Node

/-!
A text holds at most one document. Its layout gives the tokens, and the tokens give the value.
-/

namespace LayeredConfig.Document.Yaml

def read (content : String) : Option Value :=
  (tokens? content).bind readDocument

end LayeredConfig.Document.Yaml
