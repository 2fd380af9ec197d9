import LayeredConfig.Document.Yaml.Cursor

/-!
A text in flow style is plain or stands in quotation marks. It may go on over several lines;
a single line break in it counts as a space, and of several one less remains.
-/

namespace LayeredConfig.Document.Yaml

/-- What separates two words of a text: the blanks on the first line, or line breaks. -/
structure Gap where
  blanks : List Char
  breaks : Nat

namespace Gap

def empty : Gap :=
  ⟨[], 0⟩

/-- What a gap adds to a text. -/
def fold (gap : Gap) : List Char :=
  match gap.breaks with
  | 0 => gap.blanks
  | 1 => [' ']
  | count + 2 => List.replicate (count + 1) '\n'

end Gap

/-- The gap at a place, and the place after it. Blanks at the start of a line do not count;
`passTab` says where a tab among them leads. The number of steps is bounded by `fuel`. -/
def readGap (passTab : Cursor → Option Cursor) : Nat → Gap → Cursor → Option (Gap × Cursor)
  | 0, gap, place => some (gap, place)
  | fuel + 1, gap, place =>
    match place.rest with
    | '\n' :: _ => readGap passTab fuel ⟨[], gap.breaks + 1⟩ place.advance
    | c :: _ =>
      if !isBlank c then some (gap, place)
      else if !place.fresh then
        readGap passTab fuel { gap with blanks := gap.blanks ++ [c] } place.advance
      else if c = '\t' then do readGap passTab fuel gap (← passTab place)
      else readGap passTab fuel gap place.advance
    | [] => some (gap, place)

inductive Mark where
  | single
  | double
  deriving DecidableEq, Repr

def Mark.char : Mark → Char
  | .single => '\''
  | .double => '"'

def escapedChar? : Char → Option Char
  | '0' => some '\x00'
  | 'a' => some '\x07'
  | 'b' => some '\x08'
  | 't' => some '\t'
  | '\t' => some '\t'
  | 'n' => some '\n'
  | 'v' => some '\x0b'
  | 'f' => some '\x0c'
  | 'r' => some '\r'
  | 'e' => some '\x1b'
  | ' ' => some ' '
  | '"' => some '"'
  | '/' => some '/'
  | '\\' => some '\\'
  | 'N' => some '\u0085'
  | '_' => some '\u00a0'
  | 'L' => some '\u2028'
  | 'P' => some '\u2029'
  | _ => none

/-- The number of hexadecimal digits that follow a letter after a backslash. -/
def escapeLength? : Char → Option Nat
  | 'x' => some 2
  | 'u' => some 4
  | 'U' => some 8
  | _ => none

/-- The character that an escape after its backslash stands for, and the number of characters
of the escape. -/
def readEscape : List Char → Option (Char × Nat)
  | [] => none
  | c :: rest =>
    match escapeLength? c with
    | none => (escapedChar? c).map (·, 1)
    | some count =>
      let digits := rest.take count
      let code := Numeral.naturalOfDigits 16 digits
      if digits.length = count ∧ digits.all Numeral.isHexDigit ∧ code.isValidChar then
        some (Char.ofNat code, count + 1)
      else none

/-- The characters of a quoted text up to a gap or the closing mark, and the place after them.
The last component tells whether a backslash at the end of a line ended the word. -/
def readQuotedWord (mark : Mark) : Nat → Cursor → Option (List Char × Cursor × Bool)
  | 0, _ => none
  | fuel + 1, place =>
    let put (c : Char) (count : Nat) := do
      let (word, after, joined) ← readQuotedWord mark fuel (place.advanceBy count)
      return (c :: word, after, joined)
    if startsGap place.rest then some ([], place, false)
    else
      match mark, place.rest with
      | .single, '\'' :: '\'' :: _ => put '\'' 2
      | .double, '\\' :: '\n' :: _ => some ([], place.advanceBy 2, true)
      | .double, '\\' :: rest => do
        let (c, count) ← readEscape rest
        put c (count + 1)
      | _, c :: _ => if c = mark.char then some ([], place, false) else put c 1
      | _, [] => none

/-- The text up to the closing mark, and the place after the mark. Lines that follow the first
have to be indented. -/
def readQuotedText (mark : Mark) (indent : Int) : Nat → Cursor → Option (List Char × Cursor)
  | 0, _ => none
  | fuel + 1, place => do
    if place.atMark ∨ (place.column : Int) < indent then none
    let (word, place, joined) ← readQuotedWord mark fuel place
    match place.rest with
    | [] => none
    | c :: _ =>
      if c = mark.char then return (word, place.advance)
      let passTab (tab : Cursor) :=
        if (tab.column : Int) < indent then none else some tab.advance
      let (gap, place) ← readGap passTab fuel .empty place
      let (text, after) ← readQuotedText mark indent fuel place
      return (word ++ (if joined then List.replicate gap.breaks '\n' else gap.fold) ++ text,
        after)

/-- The quoted text whose opening mark is at a place, and the place after the closing mark and
what is left out of the line. Only certain characters may follow. -/
def readQuoted (mark : Mark) (inFlow : Bool) (indent : Int) (place : Cursor) :
    Option (List Char × Cursor) := do
  let (text, closed) ← readQuotedText mark indent (2 * place.rest.length + 2) place.advance
  let (_, after) ← closed.skipInline
  let fits :=
    match after.rest with
    | [] => true
    | c :: _ =>
      c == '\n' || (c == ':' && (inFlow || place.line == after.line)) ||
        (inFlow && (c == ',' || c == '\x7d' || c == ']'))
  if fits then return (text, after) else none

/-- The characters of a plain text up to a gap or an indicator. -/
def plainWord (inFlow : Bool) : List Char → List Char
  | [] => []
  | c :: rest =>
    if startsGap (c :: rest) then []
    else if c == ':' && (startsGap rest || (inFlow && startsFlowIndicator rest)) then []
    else if inFlow && isFlowIndicator c then []
    else c :: plainWord inFlow rest

/-- The words of a plain text from a place on, with the gap before them, and the place after
them and the gap that follows. -/
def readPlain (inFlow : Bool) (indent : Int) :
    Nat → Gap → Cursor → Option (List Char × Cursor)
  | 0, _, _ => none
  | fuel + 1, gap, place => do
    if place.atMark ∨ place.rest.head? = some '#' then return ([], place)
    if inFlow ∧ place.rest.head? = some '-' ∧ startsFlowIndicator (place.rest.drop 1) then none
    let word := plainWord inFlow place.rest
    if word.isEmpty then return ([], place)
    let passTab (tab : Cursor) :=
      if (tab.column : Int) < indent then tab.endLine else some tab.advance
    let (next, after) ← readGap passTab fuel .empty (place.advanceBy word.length)
    if !inFlow ∧ (after.column : Int) < indent then return (gap.fold ++ word, after)
    let (text, after) ← readPlain inFlow indent fuel next after
    return (gap.fold ++ word ++ text, after)

end LayeredConfig.Document.Yaml
