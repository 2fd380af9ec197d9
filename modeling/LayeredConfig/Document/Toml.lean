import LayeredConfig.Document.Toml.Notation

/-!
A document is a sequence of lines, each with a header, with a key and its value, or with
neither. A key belongs to the table of the header above it.
-/

namespace LayeredConfig.Document.Toml

/-- A line of a document: the header of a table, the header that tables share, or a key and its
value. -/
inductive Statement where
  | header (path : List String) (name : String)
  | sharedHeader (path : List String) (name : String)
  | assignment (path : List String) (name : String) (value : Value)

/-- A document as far as it is read: all tables, and the path of the header that is in
force. -/
structure Draft where
  root : Table
  current : List String

namespace Draft

def empty : Draft :=
  ⟨.empty, []⟩

/-- The draft after a statement, unless the statement contradicts what is there. -/
def apply (draft : Draft) : Statement → Option Draft
  | .header path name =>
    (draft.root.change false (Table.openTable name) path).map (⟨·, path ++ [name]⟩)
  | .sharedHeader path name =>
    (draft.root.change false (Table.openElement name) path).map (⟨·, path ++ [name]⟩)
  | .assignment path name value =>
    (draft.root.change false (Table.assign path name value) draft.current).map
      (⟨·, draft.current⟩)

end Draft

/-- What follows the end of a line: nothing but blanks and a comment may be left on it. -/
def endLine (text : List Char) : Option (List Char) :=
  let after := skipComment (skipBlanks text)
  if after.isEmpty then some []
  else if startsLineBreak after then some (skipLineBreak after)
  else none

/-- The statement at the start of a text, and what follows it on its line. -/
def readStatement : List Char → Option (Statement × List Char)
  | '[' :: '[' :: rest => do
    let (path, name, after) ← readKey greatestDepth rest
    match after with
    | ']' :: ']' :: after => some (.sharedHeader path name, after)
    | _ => none
  | '[' :: rest => do
    let (path, name, after) ← readKey greatestDepth rest
    match after with
    | ']' :: after => some (.header path name, after)
    | _ => none
  | text => do
    let (path, name, after) ← readKey greatestDepth text
    match after with
    | '=' :: rest =>
      let (value, after) ← readValue (2 * rest.length + 2) greatestDepth (skipBlanks rest)
      return (.assignment path name value, after)
    | _ => none

/-- Reads the statements of a text into a draft. The number of statements is bounded by
`fuel`. -/
def readStatements : Nat → Draft → List Char → Option Draft
  | 0, _, _ => none
  | fuel + 1, draft, text =>
    match skipLines text.length text with
    | [] => some draft
    | '#' :: rest => if (rest.dropWhile isLineChar).isEmpty then some draft else none
    | text => do
      let (statement, after) ← readStatement text
      readStatements fuel (← draft.apply statement) (← endLine after)

def skipMark : List Char → List Char
  | '\ufeff' :: rest => rest
  | text => text

def read (content : String) : Option Value :=
  let text := skipMark content.toList
  (readStatements (text.length + 1) .empty text).map fun draft => draft.root.toValue

end LayeredConfig.Document.Toml
