import LayeredConfig.Document.Toml.Moment
import LayeredConfig.Document.Value
import LayeredConfig.Numeral.Decimal

/-!
A word is a value written without quotation marks or brackets: a truth value, a number or a
moment. A word is read as a whole, so whatever follows a number without a gap spoils it.
-/

namespace LayeredConfig.Document.Toml

open Numeral (Float64Bits Floating readSigned64?)

def isWordChar (c : Char) : Bool :=
  c.isAlphanum || c == '_' || c == '+' || c == '-' || c == '.' || c == ':'

/-- The digits of a number without the underscores, each of which has to stand between two
digits. -/
def ungroup (isDigit : Char → Bool) : List Char → Option (List Char)
  | [] => none
  | [c] => if isDigit c then some [c] else none
  | c :: '_' :: rest => if isDigit c then (ungroup isDigit rest).map (c :: ·) else none
  | c :: rest => if isDigit c then (ungroup isDigit rest).map (c :: ·) else none

/-- The digits of a decimal number, which has no zero in front of other digits. -/
def ungroupDecimal (text : List Char) : Option (List Char) :=
  (ungroup Numeral.isDigit text).filter fun digits =>
    digits.head? ≠ some '0' ∨ digits.length = 1

/-- A whole number: signed and decimal, or unsigned in a base that its first two characters
tell. -/
def readWhole : List Char → Option Int
  | '0' :: 'x' :: digits => (ungroup Numeral.isHexDigit digits).bind (readSigned64? 16)
  | '0' :: 'o' :: digits =>
    (ungroup (fun c => (Numeral.digitValue? 8 c).isSome) digits).bind (readSigned64? 8)
  | '0' :: 'b' :: digits =>
    (ungroup (fun c => (Numeral.digitValue? 2 c).isSome) digits).bind (readSigned64? 2)
  | '-' :: digits => (ungroupDecimal digits).bind fun digits => readSigned64? 10 ('-' :: digits)
  | '+' :: digits => (ungroupDecimal digits).bind (readSigned64? 10)
  | digits => (ungroupDecimal digits).bind (readSigned64? 10)

def isGrouped (c : Char) : Bool :=
  Numeral.isDigit c || c == '_'

/-- An exponent without its underscores. -/
def ungroupExponent : List Char → Option (List Char)
  | [] => some []
  | c :: rest =>
    if c == 'e' || c == 'E' then
      match rest with
      | '+' :: digits => (ungroup Numeral.isDigit digits).map ('e' :: ·)
      | '-' :: digits => (ungroup Numeral.isDigit digits).map (['e', '-'] ++ ·)
      | digits => (ungroup Numeral.isDigit digits).map ('e' :: ·)
    else none

/-- The part of a floating-point number after its whole part, without its underscores. -/
def ungroupFraction : List Char → Option (List Char)
  | [] => none
  | '.' :: rest => do
    let fraction ← ungroup Numeral.isDigit (rest.takeWhile isGrouped)
    let exponent ← ungroupExponent (rest.dropWhile isGrouped)
    return '.' :: fraction ++ exponent
  | text => ungroupExponent text

/-- An unsigned floating-point number without its underscores. -/
def ungroupFloating (text : List Char) : Option (List Char) := do
  let whole ← ungroupDecimal (text.takeWhile isGrouped)
  let fraction ← ungroupFraction (text.dropWhile isGrouped)
  return whole ++ fraction

/-- The number nearest to an unsigned literal. -/
def nearest (negative : Bool) (literal : List Char) : Option Float64Bits :=
  match (Numeral.readFloating literal : Except _ Float64Bits) with
  | .ok x => some { x with negative }
  | .error _ => none

/-- A floating-point number. One above the greatest number is refused, and one below the least
is infinite. -/
def readFloating (text : List Char) : Option Float64Bits :=
  let (negative, magnitude) := Numeral.splitSign text
  if magnitude = ['i', 'n', 'f'] then some (Floating.infinity negative)
  else if magnitude = ['n', 'a', 'n'] then some Floating.notANumber
  else
    ((ungroupFloating magnitude).bind (nearest negative)).filter fun x =>
      x ≠ Floating.infinity false

def readWord (word : List Char) : Option Value :=
  if word = ['t', 'r', 'u', 'e'] then some (.truth true)
  else if word = ['f', 'a', 'l', 's', 'e'] then some (.truth false)
  else
    match Moment.read word with
    | some moment => some (.text moment.render)
    | none =>
      match readFloating word with
      | some x => some (.number x)
      | none => (readWhole word).map .whole

/-- Whether a text starts with a blank, two digits and a colon, as a time does that follows a
date. -/
def startsTime : List Char → Bool
  | ' ' :: a :: b :: ':' :: _ => Numeral.isDigit a && Numeral.isDigit b
  | _ => false

/-- The value of the word at the start of a text, and what follows it. A date and a time may
have one blank between them. -/
def takeWord (text : List Char) : Option (Value × List Char) :=
  let word := text.takeWhile isWordChar
  let rest := text.dropWhile isWordChar
  match Moment.read word with
  | some (.date _) =>
    if startsTime rest then
      (readWord (word ++ ' ' :: (rest.drop 1).takeWhile isWordChar)).map
        (·, (rest.drop 1).dropWhile isWordChar)
    else (readWord word).map (·, rest)
  | _ => (readWord word).map (·, rest)

end LayeredConfig.Document.Toml
