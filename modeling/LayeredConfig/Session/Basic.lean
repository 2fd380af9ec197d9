import LayeredConfig.Build.Builder
import LayeredConfig.Config.Binding

/-!
# Sessions

A session is a world in which a builder is set up, configurations are built and asked, and the
world itself changes. Its steps are taken one after the other, and a step that fails leaves
the later ones possible.
-/

namespace LayeredConfig

/-- A step of a session. A question to a configuration names it by its position, and goes to
the last one by default. Most steps that change the builder make what they pass on to it; a
plain call passes on what is there already. -/
inductive Step where
  | new
  | call (call : Builder.Call)
  | context (ambient : Bool) (roots : List String)
  | includeDefaults
  | includeDiscoveredSources
  | includeDiscoveredConverters
  | discoverInstalled
  | discover (sources : List SourceRequest) (providers : List ProviderRequest)
      (converters : List Converter)
  | addSources (requests : List SourceRequest) (times : Nat)
  | addConverters (converters : List Converter)
  | addConverter (target : ValueType) (priority : Int) (name : String)
      (conversion : String → Except Failure target.Value)
  | build
  | queries
  | copy (on : Option Nat)
  | ranking (on : Option Nat)
  | converters (on : Option Nat)
  | names (on : Option Nat)
  | raw (on : Option Nat) (keys : List String)
  | value (on : Option Nat) (target : ValueType) (key : String)
  | optionalValue (on : Option Nat) (target : ValueType) (key : String)
  | convert (on : Option Nat) (target : ValueType) (value : String)
  | sourceValue (on : Option Nat) (index : Nat) (key : String)
  | sourceProperties (on : Option Nat) (index : Nat)
  | debug (on : Option Nat)
  | bind (on : Option Nat) (shape : Shape)
  | setVariable (name : String) (value : ByteArray)
  | unsetVariable (name : String)
  | write (path : String) (content : ByteArray)
  | delete (path : String)
  | setProperty (key value : String)
  | removeProperty (key : String)

/-- What a step asks for and is not there. -/
inductive Absence where
  | builder
  | configuration
  | source
  deriving DecidableEq, Repr

/-- What a step answers. -/
inductive Answer where
  | done
  | copied
  | built (ranking : List (String × Int)) (converters : List (ValueType × Converter))
  | queries (sources providers converters : Nat)
  | ranking (ranking : List (String × Int))
  | converters (converters : List (ValueType × Converter))
  | names (names : List String)
  | texts (texts : List (Option String))
  | text (text : Option String)
  | value (value : Option TypedValue)
  | converted (value : Option TypedValue)
  | properties (properties : NameMap String)
  | shown (text : String)
  | bound (bound : Bound)
  | absent (absence : Absence)
  | failed (failure : Failure)

/-- The state of a session. The builder is gone after a failed registration, and `asked` holds
the questions that were asked since a discovery was last made. -/
structure Session where
  world : World
  counters : Counters
  builder? : Option Builder
  configs : List Config
  asked : List Question

namespace Session

def start (world : World) : Session where
  world := world
  counters := .empty
  builder? := some (.new world)
  configs := []
  asked := []

def config? (session : Session) (on : Option Nat) : Option Config :=
  match on with
  | some index => session.configs[index]?
  | none => session.configs.getLast?

/-- Makes a call to the builder. If the call fails, the builder is gone. -/
def call (session : Session) (call : Builder.Call) : Answer × Session :=
  match session.builder? with
  | none => (.absent .builder, session)
  | some builder =>
    match builder.call call with
    | .ok builder => (.done, { session with builder? := some builder })
    | .error failure => (.failed failure, { session with builder? := none })

def onConfig (session : Session) (on : Option Nat) (ask : Config → Answer) :
    Answer × Session :=
  match session.config? on with
  | some config => (ask config, session)
  | none => (.absent .configuration, session)

/-- Answers a question to a configuration that needs the ordinals of its sources now. -/
def onRanking (session : Session) (on : Option Nat)
    (ask : Config → List (String × Int) → Answer) : Answer × Session :=
  match session.config? on with
  | some config =>
    let (ranking, counters) := Config.ranking session.world session.counters config.sources
    (ask config ranking, { session with counters })
  | none => (.absent .configuration, session)

/-- Answers a question to a source of a configuration. -/
def onSource (session : Session) (on : Option Nat) (index : Nat) (ask : Source → Answer) :
    Answer × Session :=
  session.onConfig on fun config =>
    match config.sources[index]? with
    | some source => ask source
    | none => .absent .source

def ofLookup (result : Except Failure (Option TypedValue)) : Answer :=
  match result with
  | .ok value => .value value
  | .error failure => .failed failure

/-- How often a query was put to a listed discovery. -/
def timesAsked (session : Session) (query : Query) : Nat :=
  session.asked.countP fun question =>
    question.discovery.isListed && decide (question.query = query)

/-- Adds sources to the builder, made now and repeated as a whole. -/
def addSources (session : Session) (requests : List SourceRequest) (times : Nat) :
    Answer × Session :=
  match session.builder? with
  | none => (.absent .builder, session)
  | some _ =>
    match SourceRequest.makeAll session.world.files session.counters requests with
    | .error failure => (.failed failure, session)
    | .ok (sources, counters) =>
      { session with counters }.call (.addSources (List.replicate times sources).flatten)

/-- Makes what is to be discovered: the sources first, and then the providers. -/
def makeCatalog (files : FileSystem) (counters : Counters) (sources : List SourceRequest)
    (providers : List ProviderRequest) (converters : List Converter) :
    Except Failure (Catalog × Counters) := do
  let (sources, counters) ← SourceRequest.makeAll files counters sources
  let (providers, counters) ← ProviderRequest.makeAll files counters providers
  pure (⟨sources, providers, converters⟩, counters)

/-- Makes a catalog and lets the builder discover in it. -/
def discover (session : Session) (sources : List SourceRequest)
    (providers : List ProviderRequest) (converters : List Converter) : Answer × Session :=
  match session.builder? with
  | none => (.absent .builder, session)
  | some _ =>
    match makeCatalog session.world.files session.counters sources providers converters with
    | .error failure => (.failed failure, session)
    | .ok (catalog, counters) =>
      { session with counters, asked := [] }.call (.discoverIn (.listed catalog))

/-- Lets the builder discover in what is installed. -/
def discoverInstalled (session : Session) : Answer × Session :=
  match session.builder? with
  | none => (.absent .builder, session)
  | some _ => { session with asked := [] }.call (.discoverIn .installed)

/-- Builds a configuration and shows it, for which the ordinals are read again. -/
def build (session : Session) (installed : Registrations) : Answer × Session :=
  match session.builder? with
  | none => (.absent .builder, session)
  | some builder =>
    let outcome := builder.build installed session.world session.counters
    let asked := session.asked ++ outcome.asked
    match outcome.result with
    | .error failure =>
      (.failed failure, { session with asked, counters := outcome.counters })
    | .ok config =>
      let (ranking, counters) := Config.ranking session.world outcome.counters config.sources
      (.built ranking config.converters,
        { session with asked, counters, configs := session.configs ++ [config] })

def copy (session : Session) (on : Option Nat) : Answer × Session :=
  match session.config? on with
  | some config => (.copied, { session with configs := session.configs ++ [config] })
  | none => (.absent .configuration, session)

def onWorld (session : Session) (answer : Answer) (change : World → World) :
    Answer × Session :=
  (answer, { session with world := change session.world })

def step (installed : Registrations) (session : Session) : Step → Answer × Session
  | .new => (.done, { session with builder? := some (.new session.world) })
  | .call call => session.call call
  | .context ambient roots =>
    let base := if ambient then Context.ambient session.world else .empty
    session.call (.inContext (base.withRoots roots))
  | .includeDefaults => session.call .includeDefaults
  | .includeDiscoveredSources => session.call .includeDiscoveredSources
  | .includeDiscoveredConverters => session.call .includeDiscoveredConverters
  | .discoverInstalled => session.discoverInstalled
  | .discover sources providers converters => session.discover sources providers converters
  | .addSources requests times => session.addSources requests times
  | .addConverters converters => session.call (.addConverters converters)
  | .addConverter target priority name conversion =>
    session.call (.addConverter target priority name conversion)
  | .build => session.build installed
  | .queries =>
    (.queries (session.timesAsked .sources) (session.timesAsked .providers)
      (session.timesAsked .converters), session)
  | .copy on => session.copy on
  | .ranking on => session.onRanking on fun _ ranking => .ranking ranking
  | .converters on => session.onConfig on fun config => .converters config.converters
  | .names on => session.onConfig on fun config => .names (config.propertyNames session.world)
  | .raw on keys =>
    session.onConfig on fun config => .texts (keys.map (config.rawValue? session.world))
  | .value on target key =>
    session.onConfig on fun config =>
      ofLookup ((config.value session.world target key).map fun value =>
        some ⟨target, value⟩)
  | .optionalValue on target key =>
    session.onConfig on fun config =>
      ofLookup ((config.optionalValue session.world target key).map fun value =>
        value.map (TypedValue.mk target))
  | .convert on target value =>
    session.onConfig on fun config =>
      match config.converter? target with
      | none => .converted none
      | some converter =>
        match converter.convert value with
        | .ok typed => .converted (some typed)
        | .error failure => .failed failure
  | .sourceValue on index key =>
    session.onSource on index fun source => .text (source.value? session.world key)
  | .sourceProperties on index =>
    session.onSource on index fun source => .properties (source.properties session.world)
  | .debug on => session.onRanking on fun config ranking => .shown (config.debugText ranking)
  | .bind on shape =>
    session.onConfig on fun config =>
      match config.bind .held session.world shape with
      | .ok bound => .bound bound
      | .error failure => .failed failure
  | .setVariable name value =>
    session.onWorld .done fun world =>
      { world with environment := world.environment.insert name value }
  | .unsetVariable name =>
    session.onWorld .done fun world =>
      { world with environment := world.environment.erase name }
  | .write path content =>
    session.onWorld .done fun world => { world with files := world.files.write path content }
  | .delete path =>
    session.onWorld .done fun world => { world with files := world.files.remove path }
  | .setProperty key value =>
    session.onWorld (.text (session.world.system.find? key)) fun world =>
      { world with system := world.system.insert key value }
  | .removeProperty key =>
    session.onWorld (.text (session.world.system.find? key)) fun world =>
      { world with system := world.system.erase key }

def run (installed : Registrations) (session : Session) : List Step → List Answer × Session
  | [] => ([], session)
  | next :: rest =>
    let (answer, session) := session.step installed next
    let (answers, session) := session.run installed rest
    (answer :: answers, session)

end Session

end LayeredConfig
