import LayeredConfig.Numeral.Floating
import LayeredConfig.Numeral.Whole
import LayeredConfig.Text.LowerCase

/-!
A decimal literal is an optional sign, digits with at most one point among or around them, and
an optional exponent. The words for infinity and for the absence of a number are literals too.
-/

namespace LayeredConfig.Numeral

/-- Why a text is no decimal literal. -/
inductive DecimalError where
  | empty
  | invalid
  deriving DecidableEq, Repr

def DecimalError.message : DecimalError → String
  | .empty => "cannot parse float from empty string"
  | .invalid => "invalid float literal"

/-- A sign in front of a text, and the rest. -/
def splitSign : List Char → Bool × List Char
  | '-' :: rest => (true, rest)
  | '+' :: rest => (false, rest)
  | text => (false, text)

/-- The exponent at the end of a literal: nothing, or a letter followed by a signed run of
digits. -/
def readExponent : List Char → Option Int
  | [] => some 0
  | c :: rest =>
    let (negative, digits) := splitSign rest
    if (c == 'e' || c == 'E') && !digits.isEmpty && digits.all isDigit then
      let magnitude : Int := naturalOfDigits 10 digits
      some (if negative then -magnitude else magnitude)
    else none

def splitFraction : List Char → List Char × List Char
  | '.' :: rest => (rest.takeWhile isDigit, rest.dropWhile isDigit)
  | text => ([], text)

/-- An unsigned literal as a whole number and a power of ten. -/
def readScientific (text : List Char) : Option (Nat × Int) :=
  let whole := text.takeWhile isDigit
  let (fraction, rest) := splitFraction (text.dropWhile isDigit)
  if whole.isEmpty && fraction.isEmpty then none
  else
    (readExponent rest).map fun exponent =>
      (naturalOfDigits 10 (whole ++ fraction), exponent - fraction.length)

def readFloating {layout : Layout} (text : List Char) :
    Except DecimalError (Floating layout) :=
  if text.isEmpty then .error .empty
  else
    let (negative, magnitude) := splitSign text
    let word := String.ofList (Text.asciiLower magnitude)
    if word = "nan" then .ok Floating.notANumber
    else if word = "inf" ∨ word = "infinity" then .ok (Floating.infinity negative)
    else
      match readScientific magnitude with
      | some (digits, exponent) => .ok (Floating.ofDecimal negative digits exponent)
      | none => .error .invalid

end LayeredConfig.Numeral
