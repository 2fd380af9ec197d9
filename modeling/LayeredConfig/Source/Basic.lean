import LayeredConfig.Conversion.Reading
import LayeredConfig.World.Basic

/-!
# Sources

A source is a named set of properties with an ordinal. Some sources are fixed when they are
made, and others look at the world whenever they are asked. A source ranks by the ordinal it
reports, which most kinds take from a property of their own. A program may plug in sources of
its own, which may look at any part of the world, and whose ordinals may depend on all the
readings before.
-/

namespace LayeredConfig

/-- The cells in which sources keep numbers from one reading of an ordinal to the next. A cell
that was never written holds zero. -/
abbrev Cells := List Int

namespace Cells

def get (cells : Cells) (cell : Nat) : Int :=
  cells.getD cell 0

def put (number : Int) : Nat → Cells → Cells
  | 0, cells => number :: cells.tail
  | cell + 1, cells => cells.headD 0 :: put number cell cells.tail

end Cells

/-- How many counting sources there are, each of which has a cell of its own, and what the cells
hold. Sources of a program's own may keep what they remember in any cell. -/
structure Counters where
  started : Nat
  cells : Cells
  deriving DecidableEq, Repr

namespace Counters

def empty : Counters := ⟨0, []⟩

/-- The range in which ordinals lie: whole numbers of thirty-two bits. -/
def modulus : Nat := 0x100000000

/-- A new counter with its first number. -/
def start (counters : Counters) (first : Int) : Nat × Counters :=
  (counters.started, ⟨counters.started + 1, counters.cells.put first counters.started⟩)

/-- The number of a counter, which then moves on by a step. It wraps around at the ends of
its range. -/
def read (counters : Counters) (counter : Nat) (step : Int) : Int × Counters :=
  let number := counters.cells.get counter
  (number,
    { counters with cells := counters.cells.put ((number + step).bmod modulus) counter })

end Counters

/-- A source of properties. -/
inductive Source where
  /-- Properties and an ordinal given by hand. -/
  | fixed (name : String) (ordinal : Int) (properties : NameMap String)
  /-- Properties given by hand, ranked by one of them. -/
  | plain (name : String) (properties : NameMap String)
  /-- No properties, and an ordinal that moves on whenever it is read. -/
  | counting (name : String) (counter : Nat) (step : Int)
  | environment
  | system
  /-- The properties that a properties file had when it was read. -/
  | propertiesFile (location : String) (properties : NameMap String)
  /-- The properties that a structured document had when it was read. -/
  | structuredFile (path : String) (properties : NameMap String)
  /-- A source of a program's own. What it answers may depend on the world of the moment, and
  its ordinal also on what is left of the readings before. -/
  | custom (name : String) (properties : World → NameMap String)
      (value? : World → String → Option String) (ordinal : World → Cells → Int × Cells)

namespace Source

def name : Source → String
  | .fixed name _ _ => name
  | .plain name _ => name
  | .counting name _ _ => name
  | .environment => "EnvConfigSource"
  | .system => "SysPropConfigSource"
  | .propertiesFile location _ => "PropertiesConfigSource[source=" ++ location ++ "]"
  | .structuredFile path _ => "file:" ++ path
  | .custom name _ _ _ => name

/-- Whether the source is one of a program's own. All others answer as their kind does. -/
def isCustom : Source → Bool
  | .custom _ _ _ _ => true
  | _ => false

def place? : Source → Option String
  | .propertiesFile location _ => some location
  | .structuredFile path _ => some path
  | _ => none

def properties (world : World) : Source → NameMap String
  | .fixed _ _ properties => properties
  | .plain _ properties => properties
  | .counting _ _ _ => .empty
  | .environment => world.environment.texts
  | .system => world.system
  | .propertiesFile _ properties => properties
  | .structuredFile _ properties => properties
  | .custom _ properties _ _ => properties world

/-- The name with every character other than an ASCII letter or digit replaced by an
underscore. -/
def sanitize (key : String) : String :=
  String.ofList (key.toList.map fun c => if c.isAlphanum then c else '_')

/-- The variable names under which a key is looked up, the closest first. -/
def environmentNames (key : String) : List String :=
  let sanitized := sanitize key
  [key, sanitized, String.ofList (Text.asciiUpper sanitized.toList)]

/-- The value that the source gives a key at the moment. The environment is asked under
several names, and any other source of the library only under the key itself. -/
def value? (world : World) (source : Source) (key : String) : Option String :=
  match source with
  | .environment => (environmentNames key).findSome? world.environment.text?
  | .custom _ _ value? _ => value? world key
  | source => (source.properties world).find? key

/-- The property by which a source ranks itself. -/
def ordinalKey : String := "config_ordinal"

/-- The ordinal of a source that does not rank itself, by its kind. -/
def defaultOrdinal : Source → Int
  | .environment => 300
  | .system => 400
  | _ => 100

/-- The least and the greatest ordinal. -/
def ordinalBounds : Int × Int :=
  (-0x80000000, 0x7FFFFFFF)

def readOrdinal? (text : String) : Option Int :=
  match Numeral.readWhole 10 ordinalBounds.1 ordinalBounds.2 (Text.trim text.toList) with
  | .ok ordinal => some ordinal
  | .error _ => none

/-- The ordinal by which a source ranks itself, or the default of its kind. A text that is no
ordinal counts for nothing. -/
def ownOrdinal (world : World) (source : Source) : Int :=
  ((source.value? world ordinalKey).bind readOrdinal?).getD source.defaultOrdinal

/-- The ordinal that the source reports when it is asked. -/
def ordinal (world : World) (counters : Counters) : Source → Int × Counters
  | .fixed _ ordinal _ => (ordinal, counters)
  | .counting _ counter step => counters.read counter step
  | .custom _ _ _ ordinal =>
    let (number, cells) := ordinal world counters.cells
    (number, { counters with cells })
  | source => (source.ownOrdinal world, counters)

end Source

end LayeredConfig
