import LayeredConfig.Conversion.ValueType
import LayeredConfig.Failure

/-!
# Converters

A converter turns raw values into typed ones, and what it makes of a raw value depends on that
value alone. A typed converter declares the one type it produces; a derived converter declares
nothing and stands for the converter it extends; a raw converter declares any number of types,
whatever it then produces; an extending converter is a raw one that extends another converter.
-/

namespace LayeredConfig

inductive Converter where
  | typed (name : String) (priority : Option Int) (target : ValueType)
      (convert : String → Except Failure target.Value)
  /-- A converter that extends another one. -/
  | derived (name : String) (priority : Option Int) (base : Converter)
  /-- A converter with a declaration of its own, or none. -/
  | raw (name : String) (priority : Option Int) (declared : Option (List ValueType))
      (convert : String → Except Failure TypedValue)
  /-- A converter with a declaration of its own, or none, that extends another one. -/
  | extending (name : String) (priority : Option Int) (declared : Option (List ValueType))
      (base : Converter) (convert : String → Except Failure TypedValue)

namespace Converter

def name : Converter → String
  | .typed name _ _ _ => name
  | .derived name _ _ => name
  | .raw name _ _ _ => name
  | .extending name _ _ _ _ => name

def priority : Converter → Option Int
  | .typed _ priority _ _ => priority
  | .derived _ priority _ => priority
  | .raw _ priority _ _ => priority
  | .extending _ priority _ _ _ => priority

def declared : Converter → Option (List ValueType)
  | .typed _ _ target _ => some [target]
  | .derived _ _ _ => none
  | .raw _ _ declared _ => declared
  | .extending _ _ declared _ _ => declared

def lineage : Converter → List Converter
  | converter@(.derived _ _ base) => converter :: base.lineage
  | converter@(.extending _ _ _ base _) => converter :: base.lineage
  | converter => [converter]

def convert : Converter → String → Except Failure TypedValue
  | .typed _ _ target convert, value => (convert value).map (TypedValue.mk target)
  | .derived _ _ base, value => base.convert value
  | .raw _ _ _ convert, value => convert value
  | .extending _ _ _ _ convert, value => convert value

/-- The type of a declaration, which has to be of one type. Without a declaration it is the
type found further up. -/
def typeOr (name : String) (declared : Option (List ValueType))
    (further : Except Failure (Option ValueType)) : Except Failure (Option ValueType) :=
  match declared with
  | none => further
  | some [target] => .ok (some target)
  | some types => .error (.malformedType name types.length)

/-- What the first level with a declaration declares, provided that it is one type. -/
def declaredType? : Converter → Except Failure (Option ValueType)
  | .typed _ _ target _ => .ok (some target)
  | .derived _ _ base => base.declaredType?
  | .raw name _ declared _ => typeOr name declared (.ok none)
  | .extending name _ declared base _ => typeOr name declared base.declaredType?

/-- The type that the converter is registered for. -/
def targetType (converter : Converter) : Except Failure ValueType := do
  match ← converter.declaredType? with
  | some target => pure target
  | none => throw (.unresolvedType converter.name)

def defaultPriority : Int := 100

def effectivePriority (converter : Converter) : Int :=
  converter.priority.getD defaultPriority

end Converter

end LayeredConfig
