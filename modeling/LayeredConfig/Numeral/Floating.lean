/-!
A number of a binary interchange format is a sign and a code: the exponent field followed by
the fraction. Read as whole numbers, the codes are ordered as the magnitudes are, so rounding
up past the largest significand carries into the exponent by itself.
-/

namespace LayeredConfig.Numeral

/-- A binary interchange format. The precision counts the bits of the significand, the leading
one included. -/
structure Layout where
  precision : Nat
  exponentBits : Nat
  deriving DecidableEq, Repr

def Layout.binary32 : Layout := ⟨24, 8⟩

def Layout.binary64 : Layout := ⟨53, 11⟩

/-- The number of codes that share an exponent field. -/
def Layout.fractionCodes (layout : Layout) : Nat :=
  Nat.pow 2 (layout.precision - 1)

/-- The exponent of the last place of the smallest numbers. -/
def Layout.leastExponent (layout : Layout) : Int :=
  2 - (Nat.pow 2 (layout.exponentBits - 1) : Int) - (layout.precision - 1 : Int)

def Layout.infinityCode (layout : Layout) : Nat :=
  (Nat.pow 2 layout.exponentBits - 1) * layout.fractionCodes

structure Floating (layout : Layout) where
  negative : Bool
  code : Nat
  deriving DecidableEq, Repr

/-- What a code stands for: a significand times a power of two, infinity, or no number. -/
inductive Magnitude where
  | finite (significand : Nat) (exponent : Int)
  | infinite
  | notANumber
  deriving DecidableEq, Repr

namespace Floating

variable {layout : Layout}

/-- The zero of the sign. -/
def zero (negative : Bool) : Floating layout :=
  ⟨negative, 0⟩

/-- The infinity of the sign. -/
def infinity (negative : Bool) : Floating layout :=
  ⟨negative, layout.infinityCode⟩

def notANumber : Floating layout :=
  ⟨false, layout.infinityCode + layout.fractionCodes / 2⟩

def isNotANumber (x : Floating layout) : Bool :=
  layout.infinityCode < x.code

/-- The magnitude of a number. -/
def magnitude (x : Floating layout) : Magnitude :=
  if layout.infinityCode < x.code then .notANumber
  else if x.code = layout.infinityCode then .infinite
  else
    let field := x.code / layout.fractionCodes
    let fraction := x.code % layout.fractionCodes
    if field = 0 then .finite fraction layout.leastExponent
    else .finite (fraction + layout.fractionCodes) (layout.leastExponent + field - 1)

def bits (x : Floating layout) : Nat :=
  (if x.negative then Nat.pow 2 (layout.precision - 1 + layout.exponentBits) else 0) + x.code

/-- The quotient rounded to the nearest whole number, a half to the even neighbour. -/
def roundedQuotient (numerator denominator : Nat) : Nat :=
  let quotient := numerator / denominator
  let twice := 2 * (numerator % denominator)
  if denominator < twice || (twice == denominator && quotient % 2 == 1) then quotient + 1
  else quotient

/-- The greatest exponent of a power of two that does not exceed the positive quotient. -/
def binaryExponent (numerator denominator : Nat) : Int :=
  let guess : Int := (Nat.log2 numerator : Int) - Nat.log2 denominator
  if denominator * Nat.pow 2 guess.toNat ≤ numerator * Nat.pow 2 (-guess).toNat then guess
  else guess - 1

/-- The number nearest to a quotient. Beyond the largest number lies infinity. -/
def ofQuotient (negative : Bool) (numerator denominator : Nat) : Floating layout :=
  if numerator = 0 then zero negative
  else
    let last := max (binaryExponent numerator denominator - (layout.precision - 1 : Int))
      layout.leastExponent
    let significand :=
      roundedQuotient (numerator * Nat.pow 2 (-last).toNat) (denominator * Nat.pow 2 last.toNat)
    let code := (last - layout.leastExponent).toNat * layout.fractionCodes + significand
    ⟨negative, min code layout.infinityCode⟩

/-- The number nearest to `digits · 10 ^ exponent`. An exponent far outside the format is not
expanded. -/
def ofDecimal (negative : Bool) (digits : Nat) (exponent : Int) : Floating layout :=
  if digits = 0 then zero negative
  else
    let scale := exponent + (Nat.toDigits 10 digits).length
    if 400 < scale then infinity negative
    else if scale < -400 then zero negative
    else ofQuotient negative (digits * Nat.pow 10 exponent.toNat) (Nat.pow 10 (-exponent).toNat)

/-- The number nearest to `significand · 2 ^ exponent`. -/
def ofBinary (negative : Bool) (significand : Nat) (exponent : Int) : Floating layout :=
  ofQuotient negative (significand * Nat.pow 2 exponent.toNat) (Nat.pow 2 (-exponent).toNat)

def convert {target : Layout} (x : Floating layout) : Floating target :=
  match x.magnitude with
  | .finite significand exponent => ofBinary x.negative significand exponent
  | .infinite => infinity x.negative
  | .notANumber => notANumber

end Floating

abbrev Float32Bits := Floating Layout.binary32

abbrev Float64Bits := Floating Layout.binary64

end LayeredConfig.Numeral
