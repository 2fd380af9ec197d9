import LayeredConfig.Document.Value
import LayeredConfig.NameMap
import LayeredConfig.Numeral.Whole

/-!
The reader takes the notation of RFC 8259 up to a depth of 127. Of a repeated name the last
value counts. A whole number of sixty-four bits stays whole, and any other number becomes a
floating-point number by its first digits and a power of ten.
-/

namespace LayeredConfig.Document.Json

open Numeral (Float64Bits Floating Layout Magnitude)

def wordMax : Nat := 0xFFFFFFFFFFFFFFFF

/-- The digits of a number as far as they fit a word, and what follows. A digit that does not
fit ends the run. -/
def takeWord (start : Nat) : List Char → Nat × Nat × List Char
  | [] => (start, 0, [])
  | c :: rest =>
    match Numeral.digitValue? 10 c with
    | none => (start, 0, c :: rest)
    | some digit =>
      if wordMax < start * 10 + digit then (start, 0, c :: rest)
      else
        let (n, count, after) := takeWord (start * 10 + digit) rest
        (n, count + 1, after)

def powerOfTen (exponent : Nat) : Float64Bits :=
  Floating.ofDecimal false 1 exponent

def times (x y : Float64Bits) : Float64Bits :=
  match x.magnitude, y.magnitude with
  | .finite m e, .finite n f => Floating.ofBinary false (m * n) (e + f)
  | _, _ => Floating.infinity false

def dividedBy (x y : Float64Bits) : Float64Bits :=
  match x.magnitude, y.magnitude with
  | .finite m e, .finite n f =>
    Floating.ofQuotient false (m * Nat.pow 2 (e - f).toNat) (n * Nat.pow 2 (f - e).toNat)
  | _, _ => Floating.infinity false

def greatestPower : Nat := 308

/-- A word scaled by a power of ten: both are rounded, and so is their product or quotient. A
number too large for the format is refused. -/
def scale : Nat → Float64Bits → Int → Option Float64Bits
  | fuel, x, exponent =>
    if exponent.natAbs ≤ greatestPower then
      if 0 ≤ exponent then
        let product := times x (powerOfTen exponent.toNat)
        if product.magnitude = .infinite then none else some product
      else some (dividedBy x (powerOfTen exponent.natAbs))
    else if x.code = 0 then some x
    else if 0 ≤ exponent then none
    else
      match fuel with
      | 0 => some (Floating.zero false)
      | fuel + 1 => scale fuel (dividedBy x (powerOfTen greatestPower)) (exponent + greatestPower)

/-- The floating-point value of a word, a power of ten and a sign. -/
def floating (negative : Bool) (word : Nat) (exponent : Int) : Option Value := do
  let x ← scale 4 (Floating.ofQuotient false word 1) exponent
  return .number { x with negative }

/-- The exponent after its letter, added to the one found so far. -/
def readExponent (negative : Bool) (word : Nat) (exponent : Int) (text : List Char) :
    Option (Value × List Char) := do
  let (below, digits) :=
    match text with
    | '+' :: rest => (false, rest)
    | '-' :: rest => (true, rest)
    | rest => (false, rest)
  let run := digits.takeWhile Numeral.isDigit
  let after := digits.dropWhile Numeral.isDigit
  if run.isEmpty then none
  let size := Numeral.naturalOfDigits 10 run
  if 0x80000000 ≤ size then
    if word ≠ 0 ∧ !below then none
    return (.number (Floating.zero negative), after)
  let exponent := if below then exponent - size else exponent + size
  return (← floating negative word exponent, after)

/-- What may follow the digits of a number that is not whole: an exponent or nothing. -/
def readTail (negative : Bool) (word : Nat) (exponent : Int) (text : List Char) :
    Option (Value × List Char) :=
  match text with
  | 'e' :: rest => readExponent negative word exponent rest
  | 'E' :: rest => readExponent negative word exponent rest
  | rest => (floating negative word exponent).map (·, rest)

def readFraction (negative : Bool) (word : Nat) (exponent : Int) (text : List Char) :
    Option (Value × List Char) :=
  let (word', count, after) := takeWord word text
  let overflow := !(after.takeWhile Numeral.isDigit).isEmpty
  if count = 0 ∧ !overflow then none
  else readTail negative word' (exponent - count) (after.dropWhile Numeral.isDigit)

def wholeValue (negative : Bool) (word : Nat) : Value :=
  if negative then
    if word = 0 ∨ 0x8000000000000000 < word then .number (Floating.ofQuotient true word 1)
    else .whole (-(word : Int))
  else if word < 0x8000000000000000 then .whole word
  else .number (Floating.ofQuotient false word 1)

def readUnsigned (negative : Bool) (text : List Char) : Option (Value × List Char) :=
  match text with
  | '0' :: c :: rest =>
    if Numeral.isDigit c then none else afterDigits 0 0 (c :: rest)
  | c :: _ => if Numeral.isDigit c then fromDigits else none
  | [] => none
where
  fromDigits : Option (Value × List Char) :=
    let (word, _, after) := takeWord 0 text
    let skipped := after.takeWhile Numeral.isDigit
    afterDigits word skipped.length (after.dropWhile Numeral.isDigit)
  afterDigits (word : Nat) (skipped : Nat) (after : List Char) : Option (Value × List Char) :=
    match after with
    | '.' :: rest => readFraction negative word skipped rest
    | 'e' :: rest => readExponent negative word skipped rest
    | 'E' :: rest => readExponent negative word skipped rest
    | rest =>
      if skipped = 0 then some (wholeValue negative word, rest)
      else (floating negative word skipped).map (·, rest)

def readNumber : List Char → Option (Value × List Char)
  | '-' :: rest => readUnsigned true rest
  | text => readUnsigned false text

def hexCode? (digits : List Char) : Option Nat :=
  if digits.length = 4 ∧ digits.all Numeral.isHexDigit then
    some (Numeral.naturalOfDigits 16 digits)
  else none

def escapedChar? : Char → Option Char
  | '"' => some '"'
  | '\\' => some '\\'
  | '/' => some '/'
  | 'b' => some '\x08'
  | 'f' => some '\x0c'
  | 'n' => some '\n'
  | 'r' => some '\r'
  | 't' => some '\t'
  | _ => none

/-- The characters of a string after its opening quote, and what follows the closing one. A
pair of surrogate codes makes one character, and a surrogate on its own is refused. -/
def readString : List Char → Option (List Char × List Char)
  | [] => none
  | '"' :: rest => some ([], rest)
  | '\\' :: 'u' :: a :: b :: c :: d :: '\\' :: 'u' :: e :: f :: g :: h :: rest => do
    let high ← hexCode? [a, b, c, d]
    if 0xD800 ≤ high ∧ high < 0xDC00 then
      let low ← hexCode? [e, f, g, h]
      if low < 0xDC00 ∨ 0xE000 ≤ low then none
      let code := 0x10000 + (high - 0xD800) * 0x400 + (low - 0xDC00)
      (readString rest).map fun (chars, after) => (Char.ofNat code :: chars, after)
    else if 0xDC00 ≤ high ∧ high < 0xE000 then none
    else
      (readString ('\\' :: 'u' :: e :: f :: g :: h :: rest)).map fun (chars, after) =>
        (Char.ofNat high :: chars, after)
  | '\\' :: 'u' :: a :: b :: c :: d :: rest => do
    let code ← hexCode? [a, b, c, d]
    if 0xD800 ≤ code ∧ code < 0xE000 then none
    (readString rest).map fun (chars, after) => (Char.ofNat code :: chars, after)
  | '\\' :: c :: rest => do
    let char ← escapedChar? c
    (readString rest).map fun (chars, after) => (char :: chars, after)
  | c :: rest =>
    if c.toNat < 0x20 ∨ c = '\\' then none
    else (readString rest).map fun (chars, after) => (c :: chars, after)

def skipBlanks (text : List Char) : List Char :=
  text.dropWhile fun c => c == ' ' || c == '\t' || c == '\n' || c == '\r'

def greatestDepth : Nat := 127

mutual

/-- A value at the start of a text, and what follows it. `depth` is how many more levels may
be opened, and `fuel` bounds the number of steps. -/
def readValue : Nat → Nat → List Char → Option (Value × List Char)
  | 0, _, _ => none
  | fuel + 1, depth, text =>
    match skipBlanks text with
    | 'n' :: 'u' :: 'l' :: 'l' :: rest => some (.absent, rest)
    | 't' :: 'r' :: 'u' :: 'e' :: rest => some (.truth true, rest)
    | 'f' :: 'a' :: 'l' :: 's' :: 'e' :: rest => some (.truth false, rest)
    | '"' :: rest =>
      (readString rest).map fun (chars, after) => (.text (String.ofList chars), after)
    | '[' :: rest =>
      match depth with
      | 0 => none
      | depth + 1 =>
        match skipBlanks rest with
        | ']' :: after => some (.list [], after)
        | text => readItems fuel depth [] text
    | '\x7b' :: rest =>
      match depth with
      | 0 => none
      | depth + 1 =>
        match skipBlanks rest with
        | '\x7d' :: after => some (.table [], after)
        | text => readEntries fuel depth [] text
    | text => readNumber text

/-- The items of a list, of which those in `done` are read, the last first. -/
def readItems : Nat → Nat → List Value → List Char → Option (Value × List Char)
  | 0, _, _, _ => none
  | fuel + 1, depth, done, text => do
    let (item, after) ← readValue fuel depth text
    match skipBlanks after with
    | ',' :: rest => readItems fuel depth (item :: done) rest
    | ']' :: rest => some (.list (item :: done).reverse, rest)
    | _ => none

/-- The entries of a table, of which those in `done` are read. -/
def readEntries :
    Nat → Nat → List (String × Value) → List Char → Option (Value × List Char)
  | 0, _, _, _ => none
  | fuel + 1, depth, done, text =>
    match skipBlanks text with
    | '"' :: rest => do
      let (name, after) ← readString rest
      match skipBlanks after with
      | ':' :: rest => do
        let (value, after) ← readValue fuel depth rest
        let done := Entries.insert (String.ofList name) value done
        match skipBlanks after with
        | ',' :: rest => readEntries fuel depth done rest
        | '\x7d' :: rest => some (.table done, rest)
        | _ => none
      | _ => none
    | _ => none

end

def read (content : String) : Option Value :=
  let text := content.toList
  match readValue (2 * text.length + 2) greatestDepth text with
  | some (value, rest) => if (skipBlanks rest).isEmpty then some value else none
  | none => none

end LayeredConfig.Document.Json
