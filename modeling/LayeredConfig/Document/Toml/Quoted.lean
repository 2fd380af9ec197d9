import LayeredConfig.Numeral.Whole

/-!
A text stands between double quotation marks and may hold escapes, or between single ones and
is taken as it stands. Three marks enclose a text of several lines, in which a pair of
carriage return and line feed counts as one line feed.
-/

namespace LayeredConfig.Document.Toml

def isBlank (c : Char) : Bool :=
  c == ' ' || c == '\t'

/-- Whether the character may stand in a line: any but the control characters, of which only
the tab is one. -/
def isLineChar (c : Char) : Bool :=
  c == '\t' || (0x20 ≤ c.toNat && c.toNat != 0x7f)

def charOfCode? (digits : List Char) : Option Char :=
  let code := Numeral.naturalOfDigits 16 digits
  if digits.all Numeral.isHexDigit ∧ code.isValidChar then some (Char.ofNat code) else none

def escapedChar? : Char → Option Char
  | '"' => some '"'
  | '\\' => some '\\'
  | 'b' => some '\x08'
  | 'f' => some '\x0c'
  | 'n' => some '\n'
  | 'r' => some '\r'
  | 't' => some '\t'
  | _ => none

def prepend (c : Char) (text : List Char × List Char) : List Char × List Char :=
  (c :: text.1, text.2)

/-- The text up to a double quotation mark, and what follows the mark. -/
def readBasic : List Char → Option (List Char × List Char)
  | [] => none
  | '"' :: rest => some ([], rest)
  | '\\' :: 'u' :: a :: b :: c :: d :: rest => do
    let char ← charOfCode? [a, b, c, d]
    (readBasic rest).map (prepend char)
  | '\\' :: 'U' :: a :: b :: c :: d :: e :: f :: g :: h :: rest => do
    let char ← charOfCode? [a, b, c, d, e, f, g, h]
    (readBasic rest).map (prepend char)
  | '\\' :: c :: rest => do
    let char ← escapedChar? c
    (readBasic rest).map (prepend char)
  | c :: rest =>
    if isLineChar c && c != '\\' then (readBasic rest).map (prepend c) else none

/-- The text up to a single quotation mark, and what follows the mark. -/
def readLiteral : List Char → Option (List Char × List Char)
  | [] => none
  | '\'' :: rest => some ([], rest)
  | c :: rest => if isLineChar c then (readLiteral rest).map (prepend c) else none

def startsLineBreak : List Char → Bool
  | '\n' :: _ => true
  | '\r' :: '\n' :: _ => true
  | _ => false

def skipLineBreak : List Char → List Char
  | '\n' :: rest => rest
  | '\r' :: '\n' :: rest => rest
  | text => text

/-- The text up to three double quotation marks, and what follows them. Up to two more marks
before them belong to the text. With `trimming`, blanks and line breaks in front are left out,
as they are after a backslash at the end of a line. -/
def readBasicLines (trimming : Bool) : List Char → Option (List Char × List Char)
  | [] => none
  | '"' :: '"' :: '"' :: '"' :: '"' :: rest => some (['"', '"'], rest)
  | '"' :: '"' :: '"' :: '"' :: rest => some (['"'], rest)
  | '"' :: '"' :: '"' :: rest => some ([], rest)
  | '\\' :: 'u' :: a :: b :: c :: d :: rest => do
    let char ← charOfCode? [a, b, c, d]
    (readBasicLines false rest).map (prepend char)
  | '\\' :: 'U' :: a :: b :: c :: d :: e :: f :: g :: h :: rest => do
    let char ← charOfCode? [a, b, c, d, e, f, g, h]
    (readBasicLines false rest).map (prepend char)
  | '\\' :: rest =>
    if startsLineBreak (rest.dropWhile isBlank) then readBasicLines true rest
    else
      match rest with
      | [] => none
      | c :: rest => do
        let char ← escapedChar? c
        (readBasicLines false rest).map (prepend char)
  | '\r' :: '\n' :: rest =>
    if trimming then readBasicLines true rest
    else (readBasicLines false rest).map (prepend '\n')
  | c :: rest =>
    if trimming && (isBlank c || c == '\n') then readBasicLines true rest
    else if isLineChar c || c == '\n' then (readBasicLines false rest).map (prepend c)
    else none

/-- The text up to three single quotation marks, and what follows them. Up to two more marks
before them belong to the text. -/
def readLiteralLines : List Char → Option (List Char × List Char)
  | [] => none
  | '\'' :: '\'' :: '\'' :: '\'' :: '\'' :: rest => some (['\'', '\''], rest)
  | '\'' :: '\'' :: '\'' :: '\'' :: rest => some (['\''], rest)
  | '\'' :: '\'' :: '\'' :: rest => some ([], rest)
  | '\r' :: '\n' :: rest => (readLiteralLines rest).map (prepend '\n')
  | c :: rest =>
    if isLineChar c || c == '\n' then (readLiteralLines rest).map (prepend c) else none

def readQuoted : List Char → Option (List Char × List Char)
  | '"' :: '"' :: '"' :: rest => readBasicLines false (skipLineBreak rest)
  | '"' :: rest => readBasic rest
  | '\'' :: '\'' :: '\'' :: rest => readLiteralLines (skipLineBreak rest)
  | '\'' :: rest => readLiteral rest
  | _ => none

end LayeredConfig.Document.Toml
