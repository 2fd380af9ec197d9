import LayeredConfig.Build.Discovery
import LayeredConfig.Config.Basic

/-!
# Builders

A builder collects explicit sources and converters and says what else to include. Building
assembles all sources in a fixed order, reads the ordinal of each of them once, and ranks them
by it. The builder stays as it is, so it can build again.
-/

namespace LayeredConfig

/-- What a configuration is to be built from. -/
structure Builder where
  sources : List Source
  converters : Registry
  context : Context
  discovery : Discovery
  withDefaults : Bool
  withDiscoveredSources : Bool
  withDiscoveredConverters : Bool

namespace Builder

/-- A builder without anything explicit, which looks resources up in the ambient context. -/
def new (world : World) : Builder where
  sources := []
  converters := .empty
  context := .ambient world
  discovery := .installed
  withDefaults := false
  withDiscoveredSources := false
  withDiscoveredConverters := false

def addSources (builder : Builder) (sources : List Source) : Builder :=
  { builder with sources := builder.sources ++ sources }

def addConverters (builder : Builder) (converters : List Converter) :
    Except Failure Builder :=
  (builder.converters.registerAll converters).map fun registry =>
    { builder with converters := registry }

/-- Registers a conversion for its type with a priority. The converter that is made of it carries
no priority of its own. -/
def addConverter (builder : Builder) (target : ValueType) (priority : Int) (name : String)
    (conversion : String → Except Failure target.Value) : Builder :=
  let converter : Converter := .typed name none target conversion
  { builder with converters := builder.converters.register target ⟨priority, converter⟩ }

inductive Call where
  | includeDefaults
  | includeDiscoveredSources
  | includeDiscoveredConverters
  | inContext (context : Context)
  | discoverIn (discovery : Discovery)
  | addSources (sources : List Source)
  | addConverters (converters : List Converter)
  | addConverter (target : ValueType) (priority : Int) (name : String)
      (conversion : String → Except Failure target.Value)

/-- Makes one call. Only the registration of converters for the types they declare can
fail. -/
def call (builder : Builder) : Call → Except Failure Builder
  | .includeDefaults => .ok { builder with withDefaults := true }
  | .includeDiscoveredSources => .ok { builder with withDiscoveredSources := true }
  | .includeDiscoveredConverters => .ok { builder with withDiscoveredConverters := true }
  | .inContext context => .ok { builder with context }
  | .discoverIn discovery => .ok { builder with discovery }
  | .addSources sources => .ok (builder.addSources sources)
  | .addConverters converters => builder.addConverters converters
  | .addConverter target priority name conversion =>
    .ok (builder.addConverter target priority name conversion)

def callAll (builder : Builder) (calls : List Call) : Except Failure Builder :=
  calls.foldlM call builder

def defaultResources : List String :=
  ["META-INF/microprofile-config.properties",
    "WEB-INF/classes/META-INF/microprofile-config.properties"]

/-- The environment, the system properties, and the sources of the default resources. -/
def defaultSources (world : World) (context : Context) : Except Failure (List Source) := do
  let found ← Provider.allSources world context
    (defaultResources.map fun resource => .resource resource true)
  pure (.environment :: .system :: found)

def includedDefaults (builder : Builder) (world : World) : Except Failure (List Source) :=
  if builder.withDefaults then defaultSources world builder.context else .ok []

/-- Computations that ask discoveries and may fail. What was asked before a failure stays put
down. -/
abbrev Preparing := ExceptT Failure Asking

/-- The result of a preparation, and the questions that were asked when it ends. -/
def Preparing.outcome {α : Type} (preparing : Preparing α) (asked : List Question) :
    Except Failure α × List Question :=
  Id.run (preparing.run.run asked)

def ask (builder : Builder) (installed : Registrations) (world : World) (query : Query) :
    Preparing query.Answer :=
  ExceptT.lift (builder.discovery.ask installed world builder.context query)

/-- Finds sources, and after them those of the providers that are found. -/
def discoverSources (builder : Builder) (installed : Registrations) (world : World) :
    Preparing (List Source) := do
  let found : List Source ← builder.ask installed world .sources
  let providers : List Provider ← builder.ask installed world .providers
  let provided ←
    (Provider.allSources world builder.context providers : Except Failure (List Source))
  pure (found ++ provided)

def includedDiscoveries (builder : Builder) (installed : Registrations) (world : World) :
    Preparing (List Source) :=
  if builder.withDiscoveredSources then builder.discoverSources installed world else pure []

/-- Gathers all sources that a build includes: the explicit ones, the discovered ones, the default
ones. -/
def gatherSources (builder : Builder) (installed : Registrations) (world : World) :
    Preparing (List Source) := do
  let discovered ← builder.includedDiscoveries installed world
  let defaults ← (builder.includedDefaults world : Except Failure (List Source))
  pure (builder.sources ++ discovered ++ defaults)

/-- Finds the registry that a build ends with: the explicit converters, and after them the
discovered ones. -/
def gatherConverters (builder : Builder) (installed : Registrations) (world : World) :
    Preparing Registry := do
  if builder.withDiscoveredConverters then
    let found : List Converter ← builder.ask installed world .converters
    (builder.converters.registerAll found : Except Failure Registry)
  else pure builder.converters

/-- Does all of a build that can fail. -/
def prepare (builder : Builder) (installed : Registrations) (world : World) :
    Preparing (List Source × Registry) := do
  let sources ← builder.gatherSources installed world
  let registry ← builder.gatherConverters installed world
  pure (sources, registry)

def readOrdinals (world : World) (counters : Counters) :
    List Source → List (Int × Source) × Counters
  | [] => ([], counters)
  | source :: rest =>
    let (ordinal, counters) := source.ordinal world counters
    let (others, counters) := readOrdinals world counters rest
    ((ordinal, source) :: others, counters)

/-- Sorts sources by the ordinals that were read, the greatest first. Among equals the order
stays. -/
def rank (read : List (Int × Source)) : List Source :=
  (read.mergeSort fun a b => decide (b.1 ≤ a.1)).map Prod.snd

/-- What a build leaves behind: its result, the counters, and the questions it has asked. -/
structure Outcome where
  result : Except Failure Config
  counters : Counters
  asked : List Question

/-- Builds a configuration. Ordinals are read only when nothing can fail any more. -/
def build (builder : Builder) (installed : Registrations) (world : World) (counters : Counters) :
    Outcome :=
  match (builder.prepare installed world).outcome [] with
  | (.error failure, asked) => ⟨.error failure, counters, asked⟩
  | (.ok (sources, registry), asked) =>
    let (read, counters) := readOrdinals world counters sources
    ⟨.ok ⟨rank read, registry.finish⟩, counters, asked⟩

end Builder

end LayeredConfig
