import LayeredConfig.Proofs.Answers
import LayeredConfig.Session.Basic

/-!
The configurations of a session stay what they are while it goes on. Its steps may change the
world, but files are no longer looked at once a source of the library is made, and the environment
and the system properties only by the sources that stand for them. So a configuration says the
same after any run that spares the parts of the world at which its own sources look.
-/

namespace LayeredConfig

namespace World

/-- The parts of a world. -/
inductive Part where
  | files
  | environment
  | system
  deriving DecidableEq, Repr

/-- What stands in a part of a world. -/
def Part.Content : Part → Type
  | .files => FileSystem
  | .environment => Environment
  | .system => NameMap String

def get (world : World) : (part : Part) → part.Content
  | .files => world.files
  | .environment => world.environment
  | .system => world.system

def set (world : World) : (part : Part) → part.Content → World
  | .files, files => { world with files }
  | .environment, environment => { world with environment }
  | .system, system => { world with system }

theorem set_get (world : World) (part : Part) : world.set part (world.get part) = world := by
  cases part <;> rfl

end World

namespace Step

/-- The part of the world that a step changes, if it changes any. -/
def changes : Step → Option World.Part
  | .write _ _ => some .files
  | .delete _ => some .files
  | .setVariable _ _ => some .environment
  | .unsetVariable _ => some .environment
  | .setProperty _ _ => some .system
  | .removeProperty _ => some .system
  | _ => none

def change (world : World) : Step → World
  | .setVariable name bytes =>
    { world with environment := world.environment.insert name bytes }
  | .unsetVariable name => { world with environment := world.environment.erase name }
  | .write path content => { world with files := world.files.write path content }
  | .delete path => { world with files := world.files.remove path }
  | .setProperty key text => { world with system := world.system.insert key text }
  | .removeProperty key => { world with system := world.system.erase key }
  | _ => world

/-- A step changes no part of the world but the one that it says it does. -/
theorem get_change {next : Step} {part : World.Part} (spared : next.changes ≠ some part)
    (world : World) : (next.change world).get part = world.get part := by
  cases next with
  | write _ _ | delete _ =>
      cases part with
      | files => exact absurd rfl spared
      | _ => rfl
  | setVariable _ _ | unsetVariable _ =>
      cases part with
      | environment => exact absurd rfl spared
      | _ => rfl
  | setProperty _ _ | removeProperty _ =>
      cases part with
      | system => exact absurd rfl spared
      | _ => rfl
  | _ => cases part <;> rfl

end Step

namespace Session

/-- What an operation leaves alone: the world, and every configuration that is there. -/
def Keeps (session after : Session) : Prop :=
  after.world = session.world ∧ ∃ more, after.configs = session.configs ++ more

theorem keeps_of_same
    {session after : Session} (world : after.world = session.world)
    (configs : after.configs = session.configs) :
    Keeps session after :=
  ⟨world, [], by rw [configs, List.append_nil]⟩

variable (session : Session)

theorem call_keeps (call : Builder.Call) :
    Keeps session (session.call call).2 := by
  obtain ⟨world, counters, _ | builder, configs, asked⟩ := session
  · exact keeps_of_same rfl rfl
  · rw [Session.call]
    simp only
    cases builder.call call with
    | error failure => exact keeps_of_same rfl rfl
    | ok changed => exact keeps_of_same rfl rfl

theorem onConfig_keeps (on : Option Nat) (ask : Config → Answer) :
    Keeps session (session.onConfig on ask).2 := by
  rw [onConfig]
  cases session.config? on with
  | none => exact keeps_of_same rfl rfl
  | some config => exact keeps_of_same rfl rfl

theorem onRanking_keeps (on : Option Nat) (ask : Config → List (String × Int) → Answer) :
    Keeps session (session.onRanking on ask).2 := by
  rw [onRanking]
  cases session.config? on with
  | none => exact keeps_of_same rfl rfl
  | some config => exact keeps_of_same rfl rfl

theorem copy_keeps (on : Option Nat) :
    Keeps session (session.copy on).2 := by
  rw [copy]
  cases session.config? on with
  | none => exact keeps_of_same rfl rfl
  | some config => exact ⟨rfl, [config], rfl⟩

theorem addSources_keeps (requests : List SourceRequest) (times : Nat) :
    Keeps session (session.addSources requests times).2 := by
  obtain ⟨world, counters, _ | builder, configs, asked⟩ := session
  · exact keeps_of_same rfl rfl
  · rw [addSources]
    simp only
    cases SourceRequest.makeAll world.files counters requests with
    | error failure => exact keeps_of_same rfl rfl
    | ok made => exact call_keeps ⟨world, made.2, some builder, configs, asked⟩ _

theorem discover_keeps (sources : List SourceRequest) (providers : List ProviderRequest)
    (converters : List Converter) :
    Keeps session (session.discover sources providers converters).2 := by
  obtain ⟨world, counters, _ | builder, configs, asked⟩ := session
  · exact keeps_of_same rfl rfl
  · rw [discover]
    simp only
    split
    · exact keeps_of_same rfl rfl
    · exact call_keeps ⟨world, _, some builder, configs, []⟩ _

theorem discoverInstalled_keeps :
    Keeps session session.discoverInstalled.2 := by
  obtain ⟨world, counters, _ | builder, configs, asked⟩ := session
  · exact keeps_of_same rfl rfl
  · exact call_keeps ⟨world, counters, some builder, configs, []⟩ _

theorem build_keeps (installed : Registrations) :
    Keeps session (session.build installed).2 := by
  obtain ⟨world, counters, _ | builder, configs, asked⟩ := session
  · exact keeps_of_same rfl rfl
  · rw [Session.build]
    simp only
    cases (builder.build installed world counters).result with
    | error failure => exact keeps_of_same rfl rfl
    | ok config => exact ⟨rfl, [config], rfl⟩

/-! ## Frames of steps and runs -/

/-- A step changes the world as it says, and keeps every configuration that is there. -/
theorem step_frame (installed : Registrations) (next : Step) :
    (session.step installed next).2.world = next.change session.world ∧
      ∃ more, (session.step installed next).2.configs = session.configs ++ more := by
  cases next with
  | new => exact keeps_of_same rfl rfl
  | call call => exact session.call_keeps call
  | context ambient roots => exact session.call_keeps _
  | includeDefaults => exact session.call_keeps _
  | includeDiscoveredSources => exact session.call_keeps _
  | includeDiscoveredConverters => exact session.call_keeps _
  | discoverInstalled => exact session.discoverInstalled_keeps
  | discover sources providers converters =>
      exact session.discover_keeps sources providers converters
  | addSources requests times => exact session.addSources_keeps requests times
  | addConverters converters => exact session.call_keeps _
  | addConverter target priority name conversion => exact session.call_keeps _
  | build => exact session.build_keeps installed
  | copy on => exact session.copy_keeps on
  | ranking on => exact session.onRanking_keeps on _
  | debug on => exact session.onRanking_keeps on _
  | sourceValue on index key => exact session.onConfig_keeps on _
  | sourceProperties on index => exact session.onConfig_keeps on _
  | queries => exact keeps_of_same rfl rfl
  | converters on => exact session.onConfig_keeps on _
  | names on => exact session.onConfig_keeps on _
  | raw on keys => exact session.onConfig_keeps on _
  | value on target key => exact session.onConfig_keeps on _
  | optionalValue on target key => exact session.onConfig_keeps on _
  | convert on target value => exact session.onConfig_keeps on _
  | bind on shape => exact session.onConfig_keeps on _
  | _ => exact ⟨rfl, [], (List.append_nil _).symm⟩

theorem run_frame (installed : Registrations) (steps : List Step) :
    (session.run installed steps).2.world =
        steps.foldl (fun world next => next.change world) session.world ∧
      ∃ more, (session.run installed steps).2.configs = session.configs ++ more := by
  induction steps generalizing session with
  | nil =>
      exact keeps_of_same rfl rfl
  | cons next rest inductionHypothesis =>
      obtain ⟨worldNext, more, configsNext⟩ := session.step_frame installed next
      obtain ⟨worldRest, further, configsRest⟩ :=
        inductionHypothesis (session.step installed next).2
      rw [worldNext] at worldRest
      rw [configsNext, List.append_assoc] at configsRest
      exact ⟨worldRest, more ++ further, configsRest⟩

/-- No step changes the part of the world. -/
def Spares (steps : List Step) (part : World.Part) : Prop :=
  ∀ next ∈ steps, next.changes ≠ some part

/-- What the steps spare is the same after the run. -/
theorem get_run {steps : List Step} {part : World.Part} (spared : Spares steps part)
    (installed : Registrations) :
    (session.run installed steps).2.world.get part = session.world.get part := by
  rw [(session.run_frame installed steps).1]
  generalize session.world = world
  induction steps generalizing world with
  | nil => rfl
  | cons next rest inductionHypothesis =>
      obtain ⟨nextSpared, restSpared⟩ := List.forall_mem_cons.mp spared
      have later := inductionHypothesis restSpared (next.change world)
      exact later.trans (Step.get_change nextSpared world)

end Session

namespace Source

/-- A source looks at a part of the world: in some two worlds it does not say the same, although
they differ in nothing but that part. -/
def LooksAt (source : Source) (part : World.Part) : Prop :=
  ∃ world content, source.view (world.set part content) ≠ source.view world

/-- Where the parts at which a source looks are the same, it says the same. One part after the
other is replaced, until the one world has become the other. -/
theorem view_eq_of_parts {source : Source} {before after : World}
    (same : ∀ part, source.LooksAt part → after.get part = before.get part) :
    source.view after = source.view before := by
  have passed (part : World.Part) (between : World)
      (untouched : between.get part = before.get part) :
      source.view (between.set part (after.get part)) = source.view between := by
    by_cases looks : source.LooksAt part
    · rw [same part looks, ← untouched, World.set_get]
    · by_contra differs
      exact looks ⟨between, after.get part, differs⟩
  let first := before.set .files after.files
  let second := first.set .environment after.environment
  calc source.view after = source.view (second.set .system after.system) := rfl
    _ = source.view second := passed .system second rfl
    _ = source.view first := passed .environment first rfl
    _ = source.view before := passed .files before rfl

/-- Of the sources of the library two look at the world, each at the part that it stands for. -/
theorem eq_of_looksAt {source : Source} {part : World.Part}
    (bundled : source.isCustom = false) (looks : source.LooksAt part) :
    source = .environment ∧ part = .environment ∨ source = .system ∧ part = .system := by
  obtain ⟨world, content, differ⟩ := looks
  cases source with
  | environment =>
      cases part with
      | environment => exact .inl ⟨rfl, rfl⟩
      | _ => exact absurd rfl differ
  | system =>
      cases part with
      | system => exact .inr ⟨rfl, rfl⟩
      | _ => exact absurd rfl differ
  | custom name properties value? ordinal => cases bundled
  | _ => exact absurd rfl differ

end Source

/-- The configuration says the same in both worlds: single values, typed values and names, what
each source lists, and what the configuration is bound to. -/
structure Config.Unmoved (config : Config) (before after : World) : Prop where
  answers : config.AnswersAlike after config before
  properties : ∀ source ∈ config.sources, source.properties after = source.properties before
  bind : ∀ enumeration shape,
    config.bind enumeration after shape = config.bind enumeration before shape

theorem Config.unmoved_of_views
    {config : Config} {before after : World}
    (same : ∀ source ∈ config.sources, source.view after = source.view before) :
    config.Unmoved before after where
  answers := by
    have views : config.views after = config.views before := List.map_congr_left same
    apply answersAlike_of_sameFirst rfl
    intro β pick
    rw [views]
  properties source member := congrArg View.properties (same source member)
  bind enumeration shape := by
    have listings :
        (config.sources.map fun source => enumeration.list source (source.properties after)) =
          config.sources.map fun source => enumeration.list source (source.properties before) := by
      apply List.map_congr_left
      intro source member
      exact congrArg (fun view => enumeration.list source view.properties) (same source member)
    rw [Config.bind, Config.bind, Config.tree, Config.tree, listings]

namespace Session

/-- Only what its own sources look at can change the answers of a configuration. -/
theorem unmoved_by_run
    {session : Session} {installed : Registrations} {steps : List Step} {config : Config}
    (custom : ∀ source ∈ config.sources, source.isCustom →
      ∀ part, source.LooksAt part → Spares steps part)
    (environment : .environment ∈ config.sources → Spares steps .environment)
    (system : .system ∈ config.sources → Spares steps .system) :
    config.Unmoved session.world (session.run installed steps).2.world := by
  apply Config.unmoved_of_views
  intro source member
  apply Source.view_eq_of_parts
  intro part looks
  apply session.get_run
  by_cases own : source.isCustom
  · exact custom source member own part looks
  · have bundled : source.isCustom = false := by simpa using own
    obtain ⟨rfl, rfl⟩ | ⟨rfl, rfl⟩ := Source.eq_of_looksAt bundled looks
    · exact environment member
    · exact system member

end Session

end LayeredConfig
