import LayeredConfig.Conversion.ValueType
import LayeredConfig.Failure
import LayeredConfig.Numeral.Decimal
import LayeredConfig.Text.Blank

/-!
The plain reading of each scalar type. A number, a truth value or a character is read from the
raw value without the blanks around it; a text is that trimmed raw value itself.
-/

namespace LayeredConfig

/-- A number that was read lies between the bounds, as long as they enclose zero. -/
theorem Numeral.readWhole_bounds {base : Nat} {lower upper n : Int} {text : List Char}
    (lowerNonpos : lower ≤ 0) (upperNonneg : 0 ≤ upper)
    (h : Numeral.readWhole base lower upper text = .ok n) : lower ≤ n ∧ n ≤ upper := by
  have nonnegative {bound : Nat} {overflow : WholeError} {digits : List Char}
      (hb : (bound : Int) ≤ upper)
      (h : (readDigits base bound overflow 0 digits).map Int.ofNat = .ok n) :
      lower ≤ n ∧ n ≤ upper := by
    cases hd : readDigits base bound overflow 0 digits with
    | error e => simp [hd, Except.map] at h
    | ok m =>
        have := readDigits_le (Nat.zero_le _) hd
        simp [hd, Except.map] at h
        omega
  have negative {digits : List Char}
      (h : (readDigits base (-lower).toNat .tooSmall 0 digits).map
        (fun (n : Nat) => -(n : Int)) = .ok n) :
      lower ≤ n ∧ n ≤ upper := by
    cases hd : readDigits base (-lower).toNat .tooSmall 0 digits with
    | error e => simp [hd, Except.map] at h
    | ok m =>
        have := readDigits_le (Nat.zero_le _) hd
        simp [hd, Except.map] at h
        omega
  unfold Numeral.readWhole at h
  split at h
  · cases h
  · cases h
  · cases h
  · exact nonnegative (by omega) h
  · split at h
    · exact negative h
    · exact nonnegative (by omega) h
  · exact nonnegative (by omega) h

namespace WholeType

def read (type : WholeType) (text : List Char) : Except Numeral.WholeError type.Number :=
  match h : Numeral.readWhole 10 type.lower type.upper text with
  | .ok n => .ok ⟨n, Numeral.readWhole_bounds type.lower_nonpos type.upper_nonneg h⟩
  | .error e => .error e

end WholeType

def readTruth (text : List Char) : Except String Bool :=
  if text = "true".toList then .ok true
  else if text = "false".toList then .ok false
  else .error "provided string was not \x60true\x60 or \x60false\x60"

def readChar : List Char → Except String Char
  | [] => .error "cannot parse char from empty string"
  | [c] => .ok c
  | _ => .error "too many characters in string"

namespace ScalarType

/-- The value of the type that a text without blanks around it denotes, or the reason why
there is none. -/
def read (type : ScalarType) (text : List Char) : Except String type.Value :=
  match type with
  | .whole type => (type.read text).mapError Numeral.WholeError.message
  | .binary32 =>
    (Numeral.readFloating text : Except _ Numeral.Float32Bits).mapError
      Numeral.DecimalError.message
  | .binary64 =>
    (Numeral.readFloating text : Except _ Numeral.Float64Bits).mapError
      Numeral.DecimalError.message
  | .truth => readTruth text
  | .char => readChar text
  | .text => .ok (String.ofList text)

/-- The value of the type that a raw value denotes. A rejection quotes the raw value. -/
def convert (type : ScalarType) (raw : String) : Except Failure type.Value :=
  (type.read (Text.trim raw.toList)).mapError fun reason =>
    .rejected ("'" ++ raw ++ "' is not a valid " ++ type.name ++ ": " ++ reason)

end ScalarType

/-- The lenient reading of a truth value: a few words in any case mean truth, and anything else
means its absence. -/
def convertTruthLeniently (raw : String) : Except Failure Bool :=
  .ok (["true", "1", "yes", "y", "on"].contains
    (String.ofList (Text.asciiLower (Text.trim raw.toList))))

end LayeredConfig
