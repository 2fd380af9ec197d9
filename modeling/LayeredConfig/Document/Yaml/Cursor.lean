import LayeredConfig.Numeral.Whole

/-!
A cursor knows what is left of a text and where in its line it stands, since the column of a
character decides to which collection it belongs. The line breaks of a text are line feeds.
-/

namespace LayeredConfig.Document.Yaml

def isBlank (c : Char) : Bool :=
  c == ' ' || c == '\t'

/-- Whether the character delimits flow collections and their items. -/
def isFlowIndicator (c : Char) : Bool :=
  c == ',' || c == '[' || c == ']' || c == '\x7b' || c == '\x7d'

def isWordChar (c : Char) : Bool :=
  c.isAlphanum || c == '_' || c == '-'

/-- Whether the text is at its end or starts with a blank or a line break. -/
def startsGap : List Char → Bool
  | [] => true
  | c :: _ => isBlank c || c == '\n'

def startsBreak : List Char → Bool
  | [] => true
  | c :: _ => c == '\n'

def startsFlowIndicator : List Char → Bool
  | [] => false
  | c :: _ => isFlowIndicator c

/-- Whether the text starts with a character three times, followed by a gap. -/
def startsTriple (c : Char) : List Char → Bool
  | x :: y :: z :: rest => x == c && y == c && z == c && startsGap rest
  | _ => false

/-- A place in a text. It is `fresh` if nothing but blanks stands before it on its line. -/
structure Cursor where
  rest : List Char
  line : Nat
  column : Nat
  fresh : Bool

namespace Cursor

def start (text : List Char) : Cursor :=
  ⟨text, 0, 0, true⟩

def advance (place : Cursor) : Cursor :=
  match place.rest with
  | [] => place
  | c :: rest =>
    if c = '\n' then ⟨rest, place.line + 1, 0, true⟩
    else ⟨rest, place.line, place.column + 1, place.fresh && isBlank c⟩

def advanceBy : Nat → Cursor → Cursor
  | 0, place => place
  | count + 1, place => advanceBy count place.advance

/-- The characters that satisfy a condition, up to the first that does not, and the place
after them. -/
def span (condition : Char → Bool) (place : Cursor) : List Char × Cursor :=
  let run := place.rest.takeWhile condition
  (run, place.advanceBy run.length)

def skipWhile (condition : Char → Bool) (place : Cursor) : Cursor :=
  (place.span condition).2

/-- Whether the place is the mark of a document's start or end. -/
def atMark (place : Cursor) : Bool :=
  place.column == 0 && (startsTriple '-' place.rest || startsTriple '.' place.rest)

/-- The place after the rest of a line of which only blanks and a comment are left out. The
first component holds the blanks. A comment needs a blank before it. -/
def skipInline (place : Cursor) : Option (List Char × Cursor) :=
  let (blanks, after) := place.span isBlank
  match after.rest with
  | '#' :: _ => if blanks.isEmpty then none else some (blanks, after.skipWhile (· != '\n'))
  | _ => some (blanks, after)

/-- The place after blanks and a comment, if it is the end of a line. -/
def endLine (place : Cursor) : Option Cursor := do
  let (_, after) ← place.skipInline
  if startsBreak after.rest then some after else none

end Cursor

end LayeredConfig.Document.Yaml
