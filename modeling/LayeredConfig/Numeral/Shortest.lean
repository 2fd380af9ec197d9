import LayeredConfig.Numeral.Floating

/-!
A finite number is written with the fewest digits that read back as the same number, and of
those the nearest. The digits are always positional: there is no exponent, and no point after
a whole number.
-/

namespace LayeredConfig.Numeral

/-- A value and the bounds of what rounds to it, in units of a power of two. The bounds belong
to the interval when the significand is even. -/
structure RoundingInterval where
  lower : Nat
  value : Nat
  upper : Nat
  unit : Int
  closed : Bool

/-- The interval around a positive number. Below a power of two the numbers lie twice as
dense, except where the format has no smaller exponent. -/
def Floating.interval {layout : Layout} (x : Floating layout) (significand : Nat)
    (exponent : Int) : RoundingInterval where
  lower :=
    if significand = layout.fractionCodes ∧ layout.fractionCodes < x.code
    then 4 * significand - 1 else 4 * significand - 2
  value := 4 * significand
  upper := 4 * significand + 2
  unit := exponent - 2
  closed := significand % 2 == 0

/-- The multiple of `10 ^ place` nearest to the value, if a multiple lies in the interval. A
value halfway between two of them is rounded up. -/
def RoundingInterval.multiple? (interval : RoundingInterval) (place : Int) : Option Nat :=
  let scale := Nat.pow 2 interval.unit.toNat * Nat.pow 10 (-place).toNat
  let denominator := Nat.pow 2 (-interval.unit).toNat * Nat.pow 10 place.toNat
  let inside (n : Nat) : Bool :=
    let point := n * denominator
    let lower := interval.lower * scale
    let upper := interval.upper * scale
    (lower < point && point < upper) ||
      (interval.closed && (point == lower || point == upper))
  let value := interval.value * scale
  let below := value / denominator
  let nearerAbove := denominator ≤ 2 * (value % denominator)
  match inside below, inside (below + 1) with
  | true, true => some (if nearerAbove then below + 1 else below)
  | true, false => some below
  | false, true => some (below + 1)
  | false, false => none

/-- The first place, from `place` downwards, at which the interval holds a multiple, with that
multiple. -/
def RoundingInterval.search (interval : RoundingInterval) : Nat → Int → Nat × Int
  | 0, place => (0, place)
  | steps + 1, place =>
    match interval.multiple? place with
    | some digits => (digits, place)
    | none => interval.search steps (place - 1)

/-- A place above the first digit of `significand · 2 ^ exponent`. -/
def leadingPlace (significand : Nat) (exponent : Int) : Int :=
  (((Nat.log2 significand : Int) + exponent + 1) * 30103).fdiv 100000 + 1

/-- The shortest digits of a positive number and the place of the last one. -/
def Floating.shortest {layout : Layout} (x : Floating layout) (significand : Nat)
    (exponent : Int) : Nat × Int :=
  (x.interval significand exponent).search (layout.precision + 2)
    (leadingPlace significand exponent)

/-- The digits with a point at their place, and zeros where digits are missing. -/
def positional (digits : List Char) (place : Int) : List Char :=
  if 0 ≤ place then digits ++ List.replicate place.toNat '0'
  else
    let whole := (digits.length : Int) + place
    if 0 < whole then digits.take whole.toNat ++ '.' :: digits.drop whole.toNat
    else '0' :: '.' :: (List.replicate (-whole).toNat '0' ++ digits)

def Floating.render {layout : Layout} (x : Floating layout) : String :=
  let sign := if x.negative then "-" else ""
  match x.magnitude with
  | .notANumber => "NaN"
  | .infinite => sign ++ "inf"
  | .finite 0 _ => sign ++ "0"
  | .finite significand exponent =>
    let (digits, place) := x.shortest significand exponent
    sign ++ String.ofList (positional (Nat.toDigits 10 digits) place)

end LayeredConfig.Numeral
