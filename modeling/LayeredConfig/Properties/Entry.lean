/-!
A logical line holds a key, a separator and a value, each still escaped. The key ends at the
first equals sign, colon or blank that no backslash escapes. The separator is a run of blanks
with at most one equals sign or colon in it, and the value is what follows.
-/

namespace LayeredConfig.Properties

/-- The blanks of a separator: space, tab and form feed. -/
def isSeparatorBlank (c : Char) : Bool :=
  c == ' ' || c == '\t' || c == '\x0c'

def isSeparatorSign (c : Char) : Bool :=
  c == '=' || c == ':'

/-- The key at the start of a text, and the rest. A character after a backslash that is not
itself escaped belongs to the key. -/
def splitKey (escaped : Bool) : List Char → List Char × List Char
  | [] => ([], [])
  | c :: rest =>
    if !escaped && (isSeparatorSign c || isSeparatorBlank c) then ([], c :: rest)
    else
      let (key, tail) := splitKey (!escaped && c == '\\') rest
      (c :: key, tail)

/-- The text without the separator at its start. -/
def dropSeparator (text : List Char) : List Char :=
  match text.dropWhile isSeparatorBlank with
  | c :: rest => if isSeparatorSign c then rest.dropWhile isSeparatorBlank else c :: rest
  | [] => []

/-- The escaped key and the escaped value of a logical line. -/
def splitEntry (line : List Char) : List Char × List Char :=
  let (key, rest) := splitKey false line
  (key, dropSeparator rest)

end LayeredConfig.Properties
