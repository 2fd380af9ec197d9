import LayeredConfig.Document.Format
import LayeredConfig.Properties.Content
import LayeredConfig.Source.Basic
import LayeredConfig.Text.Encoding

/-!
Sources that come from a file are read once, when they are made. A properties file may be in
either of two encodings and must not hold a malformed escape; a structured document is UTF-8
and in the format of its extension.
-/

namespace LayeredConfig

namespace Source

def loadProperties (files : FileSystem) (path : String) : Except Failure Source := do
  let bytes ← (files.read path).mapError Failure.file
  let properties ← (Properties.parse (Text.decode bytes)).mapError fun malformed =>
    .parse (path ++ ": " ++ malformed.message)
  pure (.propertiesFile path properties)

def ofContent (location content : String) : Source :=
  .propertiesFile location (Properties.parseLeniently content)

def formatOf (path : String) : Except Failure Document.Format :=
  match Path.extension? path with
  | none => .error (.load ("Unable to determine file format for: " ++ path))
  | some extension =>
    match Document.Format.ofExtension? extension with
    | some format => .ok format
    | none =>
      .error (.load ("Unsupported file extension: " ++ extension ++
        ". Supported: .yaml, .yml, .toml, .json"))

/-- The file whose content a path stands for, with its format. A directory stands for the
file that has the same name with one more extension. -/
def documentFile? (files : FileSystem) (path : String) (format : Document.Format) :
    Option (String × Document.Format) :=
  if files.isFile path then some (path, format)
  else
    let stem :=
      String.ofList (path.toList.reverse.dropWhile fun c => c == '/' || c == '.').reverse
    (Document.Format.extensions.map fun entry => (stem ++ "." ++ entry.1, entry.2)).find?
      fun candidate => files.isFile candidate.1

def documentProperties? (files : FileSystem) (path : String) (format : Document.Format) :
    Option (NameMap String) := do
  let (file, format) ← documentFile? files path format
  let bytes ← (files.read file).toOption
  let content ← String.fromUTF8? bytes
  format.properties? content

def loadDocument (files : FileSystem) (path : String) : Except Failure Source := do
  let format ← formatOf path
  if files.pathExists path then
    match documentProperties? files path format with
    | some properties => pure (.structuredFile path properties)
    | none => throw (.load "Failed to load file")
  else throw (.load ("Configuration file not found: " ++ path))

end Source

inductive SourceRequest where
  | fixed (name : String) (ordinal : Int) (properties : NameMap String)
  | plain (name : String) (properties : NameMap String)
  | counting (name : String) (first step : Int)
  | environment
  | system
  | content (location content : String)
  | propertiesFile (path : String)
  | structuredFile (path : String)

namespace SourceRequest

/-- Makes the source. Only a counting source changes the counters. -/
def make (files : FileSystem) (counters : Counters) :
    SourceRequest → Except Failure (Source × Counters)
  | .fixed name ordinal properties => .ok (.fixed name ordinal properties, counters)
  | .plain name properties => .ok (.plain name properties, counters)
  | .counting name first step =>
    let (counter, counters) := counters.start first
    .ok (.counting name counter step, counters)
  | .environment => .ok (.environment, counters)
  | .system => .ok (.system, counters)
  | .content location text => .ok (.ofContent location text, counters)
  | .propertiesFile path => (Source.loadProperties files path).map (·, counters)
  | .structuredFile path => (Source.loadDocument files path).map (·, counters)

/-- Makes sources one after the other, up to the first that fails. -/
def makeAll (files : FileSystem) (counters : Counters) :
    List SourceRequest → Except Failure (List Source × Counters)
  | [] => .ok ([], counters)
  | request :: rest => do
    let (source, counters) ← request.make files counters
    let (sources, counters) ← makeAll files counters rest
    pure (source :: sources, counters)

end SourceRequest

end LayeredConfig
