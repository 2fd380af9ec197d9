import LayeredConfig.NameMap

/-!
An environment gives names a value of bytes, and is kept by the process as a list of texts of
the form `name=value`. A variable is looked up by the text before an equals sign, so a name
asked for may itself hold one.
-/

namespace LayeredConfig

/-- The variables of a process. -/
abbrev Environment := NameMap ByteArray

namespace Environment

/-- The rest of the bytes after a beginning. -/
def afterBeginning? : List UInt8 → List UInt8 → Option (List UInt8)
  | [], bytes => some bytes
  | _ :: _, [] => none
  | expected :: beginning, byte :: bytes =>
    if expected = byte then afterBeginning? beginning bytes else none

/-- What follows `asked=` in the text `name=value`. -/
def valueIn? (asked : String) (entry : String × ByteArray) : Option ByteArray :=
  let equals : List UInt8 := [0x3D]
  let line := entry.1.toUTF8.toList ++ equals ++ entry.2.toList
  (afterBeginning? (asked.toUTF8.toList ++ equals) line).map fun bytes => ⟨bytes.toArray⟩

/-- The bytes that a name stands for. A name that is empty or holds a zero character stands
for nothing. -/
def bytes? (environment : Environment) (asked : String) : Option ByteArray :=
  if asked.isEmpty || asked.toList.contains '\x00' then none
  else if asked.toList.contains '=' then environment.entries.findSome? (valueIn? asked)
  else environment.find? asked

/-- The text that a name stands for. Bytes that are not UTF-8 are no text. -/
def text? (environment : Environment) (asked : String) : Option String :=
  (environment.bytes? asked).bind String.fromUTF8?

def texts (environment : Environment) : NameMap String :=
  environment.filterMap String.fromUTF8?

end Environment

end LayeredConfig
