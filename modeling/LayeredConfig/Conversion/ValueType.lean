import LayeredConfig.Numeral.Floating

/-!
The types that raw values are converted to, each with its values. The name of a type is the
one that messages show. A program may have further types of its own, as many as it likes.
-/

namespace LayeredConfig

/-- The size of a whole-number type. The size of an address counts as a size of its own. -/
inductive WordSize where
  | bits8
  | bits16
  | bits32
  | bits64
  | bits128
  | address
  deriving DecidableEq, Repr

namespace WordSize

def width : WordSize → Nat
  | .bits8 => 8
  | .bits16 => 16
  | .bits32 => 32
  | .bits64 => 64
  | .bits128 => 128
  | .address => 64

def suffix : WordSize → String
  | .bits8 => "8"
  | .bits16 => "16"
  | .bits32 => "32"
  | .bits64 => "64"
  | .bits128 => "128"
  | .address => "size"

def all : List WordSize :=
  [.bits8, .bits16, .bits32, .bits64, .bits128, .address]

end WordSize

structure WholeType where
  signed : Bool
  size : WordSize
  deriving DecidableEq, Repr

namespace WholeType

def lower (type : WholeType) : Int :=
  if type.signed then -(Nat.pow 2 (type.size.width - 1) : Int) else 0

def upper (type : WholeType) : Int :=
  if type.signed then (Nat.pow 2 (type.size.width - 1) : Int) - 1
  else (Nat.pow 2 type.size.width : Int) - 1

def name (type : WholeType) : String :=
  (if type.signed then "i" else "u") ++ type.size.suffix

def Number (type : WholeType) : Type :=
  { n : Int // type.lower ≤ n ∧ n ≤ type.upper }

theorem lower_nonpos (type : WholeType) : type.lower ≤ 0 := by
  rcases type with ⟨signed, size⟩
  cases signed <;> cases size <;> decide

theorem upper_nonneg (type : WholeType) : 0 ≤ type.upper := by
  rcases type with ⟨signed, size⟩
  cases signed <;> cases size <;> decide

/-- Every type of whole numbers, the signed ones first. -/
def all : List WholeType :=
  WordSize.all.map (⟨true, ·⟩) ++ WordSize.all.map (⟨false, ·⟩)

end WholeType

/-- A type whose values are read from one raw value as a whole. -/
inductive ScalarType where
  | whole (type : WholeType)
  | binary32
  | binary64
  | truth
  | char
  | text
  deriving DecidableEq, Repr

namespace ScalarType

def name : ScalarType → String
  | .whole type => type.name
  | .binary32 => "f32"
  | .binary64 => "f64"
  | .truth => "bool"
  | .char => "char"
  | .text => "alloc::string::String"

def Value : ScalarType → Type
  | .whole type => type.Number
  | .binary32 => Numeral.Float32Bits
  | .binary64 => Numeral.Float64Bits
  | .truth => Bool
  | .char => Char
  | .text => String

end ScalarType

/-- A type that a converter may produce. -/
inductive ValueType where
  | scalar (type : ScalarType)
  | texts
  /-- A type of a program's own. Two of them may share a name. -/
  | custom (id : Nat) (name : String)
  deriving DecidableEq, Repr

namespace ValueType

def name : ValueType → String
  | .scalar type => type.name
  | .texts => "alloc::vec::Vec<alloc::string::String>"
  | .custom _ name => name

/-- The values of the type. Those of a program's own types are known by a text each. -/
def Value : ValueType → Type
  | .scalar type => type.Value
  | .texts => List String
  | .custom _ _ => String

def debugText (type : ValueType) : String :=
  "TargetType(" ++ type.name ++ ")"

/-- The types that every program has. -/
def builtin : List ValueType :=
  WholeType.all.map (.scalar ∘ .whole) ++
    [.scalar .binary32, .scalar .binary64, .scalar .truth, .scalar .char, .scalar .text, .texts]

end ValueType

/-- The type of texts, which every raw value already has. -/
abbrev textType : ValueType := .scalar .text

structure TypedValue where
  type : ValueType
  value : type.Value

namespace TypedValue

def cast? (typed : TypedValue) (type : ValueType) : Option type.Value :=
  if h : typed.type = type then some (h ▸ typed.value) else none

@[simp] theorem cast?_mk (type : ValueType) (value : type.Value) :
    (TypedValue.mk type value).cast? type = some value := by
  simp [cast?]

theorem cast?_of_ne {typed : TypedValue} {type : ValueType} (h : typed.type ≠ type) :
    typed.cast? type = none := by
  simp [cast?, h]

end TypedValue

end LayeredConfig
