import LayeredConfig.Document.Toml.Quoted
import LayeredConfig.Document.Toml.Table
import LayeredConfig.Document.Toml.Word

/-!
A key is one name or several joined by dots. A value is a quoted text, a word, a list or an
inline table; a list may stretch over lines, and an inline table stays on one.
-/

namespace LayeredConfig.Document.Toml

def skipBlanks (text : List Char) : List Char :=
  text.dropWhile isBlank

def skipComment : List Char → List Char
  | '#' :: rest => rest.dropWhile isLineChar
  | text => text

/-- The text without leading blanks, comments and line breaks. The number of lines is bounded
by `fuel`. -/
def skipLines : Nat → List Char → List Char
  | 0, text => text
  | fuel + 1, text =>
    let after := skipComment (skipBlanks text)
    if startsLineBreak after then skipLines fuel (skipLineBreak after) else skipBlanks text

def isBareChar (c : Char) : Bool :=
  c.isAlphanum || c == '_' || c == '-'

def readName : List Char → Option (String × List Char)
  | '"' :: rest => (readBasic rest).map fun (name, after) => (String.ofList name, after)
  | '\'' :: rest => (readLiteral rest).map fun (name, after) => (String.ofList name, after)
  | text =>
    let name := text.takeWhile isBareChar
    if name.isEmpty then none else some (String.ofList name, text.dropWhile isBareChar)

/-- A key as the names on the way and the last name, and what follows it and its blanks. The
number of names is bounded by `fuel`. -/
def readKey : Nat → List Char → Option (List String × String × List Char)
  | 0, _ => none
  | fuel + 1, text => do
    let (name, after) ← readName (skipBlanks text)
    match skipBlanks after with
    | '.' :: rest =>
      let (path, last, after) ← readKey fuel rest
      return (name :: path, last, after)
    | rest => return ([], name, rest)

/-- The greatest number of names of a key, and the greatest depth of nested values. -/
def greatestDepth : Nat := 79

mutual

/-- The value at the start of a text, and what follows it. `depth` is how many more levels may
be opened, and `fuel` bounds the number of steps. -/
def readValue : Nat → Nat → List Char → Option (Value × List Char)
  | 0, _, _ => none
  | fuel + 1, depth, text =>
    match text with
    | '"' :: _ =>
      (readQuoted text).map fun (chars, after) => (.text (String.ofList chars), after)
    | '\'' :: _ =>
      (readQuoted text).map fun (chars, after) => (.text (String.ofList chars), after)
    | '[' :: rest =>
      match depth with
      | 0 => none
      | depth + 1 => readItems fuel depth [] (skipLines rest.length rest)
    | '\x7b' :: rest =>
      match depth with
      | 0 => none
      | depth + 1 =>
        match skipBlanks rest with
        | '\x7d' :: after => some (.table [], after)
        | text => readFields fuel depth .empty text
    | _ => takeWord text

/-- The items of a list, of which those in `done` are read, the last first. The last item may
have a comma after it. -/
def readItems : Nat → Nat → List Value → List Char → Option (Value × List Char)
  | 0, _, _, _ => none
  | _, _, done, ']' :: rest => some (.list done.reverse, rest)
  | fuel + 1, depth, done, text => do
    let (item, after) ← readValue fuel depth text
    match skipLines after.length after with
    | ',' :: rest => readItems fuel depth (item :: done) (skipLines rest.length rest)
    | ']' :: rest => some (.list (item :: done).reverse, rest)
    | _ => none

/-- The fields of an inline table, of which those in the table are read. -/
def readFields : Nat → Nat → Table → List Char → Option (Value × List Char)
  | 0, _, _, _ => none
  | fuel + 1, depth, table, text => do
    let (path, name, after) ← readKey greatestDepth text
    match after with
    | '=' :: rest =>
      let (value, after) ← readValue fuel depth (skipBlanks rest)
      let table ← table.assign path name value
      match skipBlanks after with
      | ',' :: rest => readFields fuel depth table rest
      | '\x7d' :: rest => some (table.toValue, rest)
      | _ => none
    | _ => none

end

end LayeredConfig.Document.Toml
