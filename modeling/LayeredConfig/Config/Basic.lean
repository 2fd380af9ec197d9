import LayeredConfig.Conversion.Registry
import LayeredConfig.Source.Basic
import LayeredConfig.Text.Quoted

/-!
# Configurations

A configuration is a list of sources, the highest-ranking first, with one converter for each
type. The first source that gives a key a value decides it, and the converter of the wanted
type decides what becomes of that value.
-/

namespace LayeredConfig

structure Config where
  sources : List Source
  registered : List (ValueType × Converter)

namespace Config

def converter? (config : Config) (type : ValueType) : Option Converter :=
  Entries.find? type config.registered

/-- The raw value of a key: what the first source says that gives it one. -/
def rawValue? (config : Config) (world : World) (key : String) : Option String :=
  config.sources.findSome? fun source => source.value? world key

/-- The names in ascending order, each once. -/
def sortedNames (names : List String) : List String :=
  (names.mergeSort fun a b => decide (a ≤ b)).eraseReps

def propertyNames (config : Config) (world : World) : List String :=
  sortedNames (config.sources.flatMap fun source => (source.properties world).names)

/-- The failure of a converter that produced a value of another type than the one it is
registered for. -/
def differentType (target : ValueType) (key : String) : Failure :=
  .conversion key ("converter registered for " ++ target.name ++ " produced a different type")

/-- What becomes of a raw value that is wanted as a type. Without a converter only a text can
be had. -/
def convert (config : Config) (target : ValueType) (key raw : String) :
    Except Failure target.Value :=
  match config.converter? target with
  | some converter => do
    let typed ← (converter.convert raw).mapError (Failure.forKey key)
    match typed.cast? target with
    | some value => pure value
    | none => throw (differentType target key)
  | none =>
    match (TypedValue.mk textType raw).cast? target with
    | some value => .ok value
    | none => .error (.missingConverter target.name)

/-- The value of a key as a type, if any source defines the key. -/
def optionalValue (config : Config) (world : World) (target : ValueType) (key : String) :
    Except Failure (Option target.Value) :=
  match config.rawValue? world key with
  | none => .ok none
  | some raw => (config.convert target key raw).map some

def value (config : Config) (world : World) (target : ValueType) (key : String) :
    Except Failure target.Value := do
  match ← config.optionalValue world target key with
  | some value => pure value
  | none => throw (.noSuchProperty key)

/-- The types that have a converter, in ascending order of their names. -/
def converters (config : Config) : List (ValueType × Converter) :=
  config.registered.mergeSort fun a b => decide (a.1.name ≤ b.1.name)

/-- The sources with the ordinals they report now. -/
def ranking (world : World) (counters : Counters) :
    List Source → List (String × Int) × Counters
  | [] => ([], counters)
  | source :: rest =>
    let (ordinal, counters) := source.ordinal world counters
    let (others, counters) := ranking world counters rest
    ((source.name, ordinal) :: others, counters)

def rankedText (entry : String × Int) : String :=
  "(" ++ Text.quoted entry.1 ++ ", " ++ toString entry.2 ++ ")"

/-- How a configuration is shown, given the ordinals of its sources. -/
def debugText (config : Config) (ranking : List (String × Int)) : String :=
  let sources := ", ".intercalate (ranking.map rankedText)
  let types := ", ".intercalate (config.converters.map fun entry => entry.1.debugText)
  "Config \x7b sources: [" ++ sources ++ "], converters: [" ++ types ++ "] \x7d"

end Config

end LayeredConfig
