/-!
A whole number is written as an optional sign followed by at least one ASCII digit, and has to
lie between two bounds. The digits are read from the left, so that of two faults the one
further left is reported.
-/

namespace LayeredConfig.Numeral

/-- Why a text is no whole number within its bounds. -/
inductive WholeError where
  | empty
  | invalidDigit
  | tooLarge
  | tooSmall
  deriving DecidableEq, Repr

def WholeError.message : WholeError → String
  | .empty => "cannot parse integer from empty string"
  | .invalidDigit => "invalid digit found in string"
  | .tooLarge => "number too large to fit in target type"
  | .tooSmall => "number too small to fit in target type"

/-- The value of an ASCII digit in a base of up to sixteen. -/
def digitValue? (base : Nat) (c : Char) : Option Nat :=
  let n := c.toNat
  let value :=
    if 0x30 ≤ n ∧ n ≤ 0x39 then some (n - 0x30)
    else if 0x61 ≤ n ∧ n ≤ 0x66 then some (n - 0x61 + 10)
    else if 0x41 ≤ n ∧ n ≤ 0x46 then some (n - 0x41 + 10)
    else none
  value.filter (· < base)

def isDigit (c : Char) : Bool :=
  (digitValue? 10 c).isSome

def isHexDigit (c : Char) : Bool :=
  (digitValue? 16 c).isSome

/-- Continues a magnitude digit by digit as long as it does not pass `bound`. -/
def readDigits (base bound : Nat) (overflow : WholeError) (magnitude : Nat) :
    List Char → Except WholeError Nat
  | [] => .ok magnitude
  | c :: rest =>
    match digitValue? base c with
    | none => .error .invalidDigit
    | some digit =>
      if bound < magnitude * base + digit then .error overflow
      else readDigits base bound overflow (magnitude * base + digit) rest

/-- The whole number between `lower` and `upper` that the text denotes in the base. A minus
sign is only a sign where a negative number is allowed. -/
def readWhole (base : Nat) (lower upper : Int) : List Char → Except WholeError Int
  | [] => .error .empty
  | ['+'] => .error .invalidDigit
  | ['-'] => .error .invalidDigit
  | '+' :: digits =>
    (readDigits base upper.toNat .tooLarge 0 digits).map Int.ofNat
  | text@('-' :: digits) =>
    if lower < 0 then
      (readDigits base (-lower).toNat .tooSmall 0 digits).map fun (n : Nat) => -(n : Int)
    else
      (readDigits base upper.toNat .tooLarge 0 text).map Int.ofNat
  | digits =>
    (readDigits base upper.toNat .tooLarge 0 digits).map Int.ofNat

/-- The signed whole number of sixty-four bits that the text denotes in the base. -/
def readSigned64? (base : Nat) (text : List Char) : Option Int :=
  (readWhole base (-0x8000000000000000) 0x7FFFFFFFFFFFFFFF text).toOption

/-- The number that a run of digits denotes, whatever its size. -/
def naturalOfDigits (base : Nat) (digits : List Char) : Nat :=
  digits.foldl (fun n c => n * base + (digitValue? base c).getD 0) 0

/-- A magnitude that was read stays within its bound. -/
theorem readDigits_le {base bound : Nat} {overflow : WholeError} {digits : List Char}
    {magnitude n : Nat} (start : magnitude ≤ bound)
    (h : readDigits base bound overflow magnitude digits = .ok n) : n ≤ bound := by
  induction digits generalizing magnitude with
  | nil =>
      simp only [readDigits, Except.ok.injEq] at h
      omega
  | cons c rest ih =>
      simp only [readDigits] at h
      split at h
      · cases h
      · split at h
        · cases h
        · exact ih (by omega) h

end LayeredConfig.Numeral
