import LayeredConfig.Document.Yaml.Cursor
import LayeredConfig.Document.Yaml.Token

/-!
A node may have an anchor, by which an alias repeats it, and a tag, which says how its text is
read. The directives in front of a document say what the handles of tags stand for.
-/

namespace LayeredConfig.Document.Yaml

def isAnchorChar (c : Char) : Bool :=
  !isBlank c && c != '\n' && c != '\ufeff' && !isFlowIndicator c

/-- The name after the first character of an anchor or an alias. -/
def readAnchorName (place : Cursor) : Option (String × Cursor) :=
  let (name, after) := place.advance.span isAnchorChar
  if name.isEmpty then none else some (String.ofList name, after)

def isUriChar (c : Char) : Bool :=
  c.isAlphanum || c == '-' || "#;/?:@&=+$,_.!~*'()[]%".toList.contains c

def isTagChar (c : Char) : Bool :=
  isUriChar c && !isFlowIndicator c && c != '!'

/-- The number of bytes that the first byte of a character announces. -/
def sequenceLength? (byte : Nat) : Option Nat :=
  if byte < 0x80 then some 1
  else if byte / 0x20 = 6 then some 2
  else if byte / 0x10 = 14 then some 3
  else if byte / 0x08 = 30 then some 4
  else none

/-- A byte as a percent sign and two digits, and what follows it. -/
def readByte : List Char → Option (Nat × List Char)
  | '%' :: a :: b :: rest =>
    if Numeral.isHexDigit a && Numeral.isHexDigit b then
      some (Numeral.naturalOfDigits 16 [a, b], rest)
    else none
  | _ => none

/-- The bytes that continue a character, put behind the code so far, and what follows them. -/
def readContinuation : Nat → Nat → List Char → Option (Nat × List Char)
  | 0, code, text => some (code, text)
  | count + 1, code, text => do
    let (byte, rest) ← readByte text
    if byte / 0x40 = 2 then readContinuation count (code * 0x100 + byte) rest else none

/-- The character whose bytes stand at the start of a text, and what follows them. The bytes
side by side make its code. -/
def readUriEscape (text : List Char) : Option (Char × List Char) := do
  let (first, rest) ← readByte text
  let length ← sequenceLength? first
  let (code, rest) ← readContinuation (length - 1) first rest
  if code.isValidChar then some (Char.ofNat code, rest) else none

/-- The text of which the characters of a resource identifier are escapes. The number of
characters is bounded by `fuel`. -/
def decodeUri : Nat → List Char → Option (List Char)
  | _, [] => some []
  | 0, _ => none
  | fuel + 1, '%' :: rest => do
    let (c, after) ← readUriEscape ('%' :: rest)
    return c :: (← decodeUri fuel after)
  | fuel + 1, c :: rest => (decodeUri fuel rest).map (c :: ·)

/-- The characters that satisfy a condition with their escapes decoded, and the place after
them. -/
def readUri (condition : Char → Bool) (place : Cursor) : Option (String × Cursor) := do
  let (text, after) := place.span condition
  return (String.ofList (← decodeUri text.length text), after)

/-- The handle at a place: an exclamation mark, or a name between two of them. A name without
the second mark is part of what follows the handle. -/
def readHandle (place : Cursor) : Option (String × Cursor) :=
  match place.rest with
  | '!' :: _ =>
    let (name, after) := place.advance.span isWordChar
    match after.rest with
    | '!' :: _ => some (String.ofList ('!' :: name ++ ['!']), after.advance)
    | _ => some (String.ofList ('!' :: name), after)
  | _ => none

/-- Whether a handle has a mark at both ends. -/
def isNamedHandle (handle : String) : Bool :=
  2 ≤ handle.length && handle.endsWith "!"

/-- The handle and the suffix of the tag at a place. A verbatim tag has no handle, and the tag
that is a mark alone is its own suffix. -/
def readTag (place : Cursor) : Option (Token × Cursor) := do
  match place.rest with
  | '!' :: '<' :: _ =>
    let (uri, after) ← readUri isUriChar (place.advanceBy 2)
    match after.rest with
    | '>' :: _ => return (.tag "" uri, after.advance)
    | _ => none
  | _ =>
    let (handle, after) ← readHandle place
    let (suffix, after) ← readUri isTagChar after
    if isNamedHandle handle then
      if suffix.isEmpty then none else return (.tag handle suffix, after)
    let name := (handle.drop 1).toString ++ suffix
    return (if name.isEmpty then .tag "" "!" else .tag "!" name, after)

def readVersionPart (place : Cursor) : Option Cursor :=
  let (digits, after) := place.span Numeral.isDigit
  if digits.isEmpty ∨ 9 < digits.length then none else some after

def readVersion (place : Cursor) : Option (Token × Cursor) := do
  let after ← readVersionPart (place.skipWhile isBlank)
  match after.rest with
  | '.' :: _ => return (.version, ← readVersionPart after.advance)
  | _ => none

/-- What a handle stands for: the name of a local or of a global family of tags. -/
def readExpansion (place : Cursor) : Option (String × Cursor) :=
  match place.rest with
  | '!' :: _ => do
    let (name, after) ← readUri isUriChar place.advance
    return ("!" ++ name, after)
  | c :: _ => if isTagChar c then readUri isUriChar place else none
  | [] => none

def readHandleDirective (place : Cursor) : Option (Token × Cursor) := do
  let (handle, after) ← readHandle (place.skipWhile isBlank)
  if handle ≠ "!" ∧ !isNamedHandle handle then none
  let (expansion, after) ← readExpansion (after.skipWhile isBlank)
  if startsGap after.rest then return (.handle handle expansion, after) else none

/-- The directive at a place, and the place of the next line. A directive with an unknown name
says nothing. -/
def readDirective (place : Cursor) : Option (Token × Cursor) := do
  let (name, after) := place.advance.span isWordChar
  if name.isEmpty ∨ !startsGap after.rest then none
  let (token, after) ←
    match String.ofList name with
    | "YAML" => readVersion after
    | "TAG" => readHandleDirective after
    | _ => some (.handle "" "", after.skipWhile (· != '\n'))
  return (token, (← after.endLine).advance)

end LayeredConfig.Document.Yaml
