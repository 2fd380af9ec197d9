import LayeredConfig.Document.Json
import LayeredConfig.Document.Overlay
import LayeredConfig.Document.Toml
import LayeredConfig.Document.Yaml

/-!
The notation of a document is told by the extension of its file. Whatever the notation, a
document is a table; its entries are put together and flattened to properties.
-/

namespace LayeredConfig.Document

inductive Format where
  | json
  | toml
  | yaml
  deriving DecidableEq, Repr

namespace Format

def extensions : List (String × Format) :=
  [("json", .json), ("toml", .toml), ("yaml", .yaml), ("yml", .yaml)]

def ofExtension? (extension : String) : Option Format :=
  Entries.find? extension extensions

def read (format : Format) (content : String) : Option Value :=
  match format with
  | .json => Json.read content
  | .toml => Toml.read content
  | .yaml => Yaml.read content

/-- The properties of a content, if it is a table in the format. -/
def properties? (format : Format) (content : String) : Option (NameMap String) :=
  match format.read content with
  | some (.table entries) =>
    some (NameMap.ofList (Value.flatten (Value.assemble entries).entries))
  | _ => none

end Format

end LayeredConfig.Document
