import LayeredConfig.NameMap
import LayeredConfig.Properties.Entry
import LayeredConfig.Properties.Escape
import LayeredConfig.Properties.Line

/-!
# Contents of a properties file

A content is read line by line. The strict reading fails at the first malformed escape, in the
key before the value; the lenient reading keeps a malformed key or value as it is written. In
both the last line of a key counts.
-/

namespace LayeredConfig.Properties

/-- The escaped keys and values of a content, in order. -/
def rawEntries (content : String) : List (List Char × List Char) :=
  (logicalLines content.toList).map splitEntry

def decodeEntry (entry : List Char × List Char) :
    Except MalformedEscape (String × String) := do
  let key ← unescape entry.1
  let value ← unescape entry.2
  pure (String.ofList key, String.ofList value)

/-- Decodes a key and a value, each as far as it can be decoded. -/
def decodeEntryLeniently (entry : List Char × List Char) : String × String :=
  (String.ofList (unescapeLeniently entry.1), String.ofList (unescapeLeniently entry.2))

/-- The properties of a content without malformed escapes. -/
def parse (content : String) : Except MalformedEscape (NameMap String) :=
  ((rawEntries content).mapM decodeEntry).map NameMap.ofList

/-- The properties of any content. -/
def parseLeniently (content : String) : NameMap String :=
  NameMap.ofList ((rawEntries content).map decodeEntryLeniently)

end LayeredConfig.Properties
