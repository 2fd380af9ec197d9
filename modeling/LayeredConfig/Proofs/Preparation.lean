import LayeredConfig.Build.Builder
import LayeredConfig.Proofs.Traversal

/-!
A build asks the discovery for sources and for providers, and once all sources are there, for
converters. What comes of it is decided by what the discovery has to answer at the moment, and
not by the questions before. After that a build only reads ordinals, and nothing can fail.
-/

namespace LayeredConfig.Builder

open Traversal

variable {builder : Builder} {installed : Registrations} {world : World}

theorem outcome_bind {α β : Type} (first : Preparing α) (next : α → Preparing β)
    (asked : List Question) :
    Preparing.outcome (first >>= next) asked =
      match first.outcome asked with
      | (.ok value, asked) => (next value).outcome asked
      | (.error failure, asked) => (.error failure, asked) := by
  cases ran : first.outcome asked with
  | mk result now =>
      have reached : first.run.run asked = (result, now) := ran
      rw [Preparing.outcome, ExceptT.run_bind, StateT.run_bind, reached]
      cases result <;> rfl

/-- What asks nothing leaves the questions as they are. -/
theorem outcome_liftM {α : Type} (computation : Except Failure α) (asked : List Question) :
    Preparing.outcome (liftM computation) asked = (computation, asked) := by
  cases computation <;> rfl

theorem outcome_ask (query : Query) (asked : List Question) :
    (builder.ask installed world query).outcome asked =
      (.ok ((builder.discovery.catalog installed world builder.context).answer query),
        asked ++ [⟨builder.discovery, query⟩]) :=
  rfl

/-- The sources of a catalog, followed by those of its providers. -/
def discoveredSources (world : World) (context : Context) (catalog : Catalog) :
    Except Failure (List Source) := do
  let provided ← Provider.allSources world context catalog.providers
  pure (catalog.sources ++ provided)

theorem outcome_discoverSources (asked : List Question) :
    (builder.discoverSources installed world).outcome asked =
      (discoveredSources world builder.context
          (builder.discovery.catalog installed world builder.context),
        asked ++ [⟨builder.discovery, .sources⟩, ⟨builder.discovery, .providers⟩]) := by
  rw [discoverSources, discoveredSources, outcome_bind, outcome_ask]
  simp only
  rw [outcome_bind, outcome_ask]
  simp only [Catalog.answer, outcome_bind, outcome_liftM, List.append_assoc, List.cons_append,
    List.nil_append]
  cases Provider.allSources world builder.context
      (builder.discovery.catalog installed world builder.context).providers <;> rfl

/-- The questions for what is to be discovered besides the converters. -/
def sourceQuestions (builder : Builder) : List Question :=
  if builder.withDiscoveredSources then
    [⟨builder.discovery, .sources⟩, ⟨builder.discovery, .providers⟩]
  else []

def converterQuestions (builder : Builder) : List Question :=
  if builder.withDiscoveredConverters then [⟨builder.discovery, .converters⟩] else []

/-- The discovered sources of a build, if they are included and can be had. -/
def discoveries (builder : Builder) (installed : Registrations) (world : World) :
    Except Failure (List Source) :=
  if builder.withDiscoveredSources then
    discoveredSources world builder.context
      (builder.discovery.catalog installed world builder.context)
  else .ok []

/-- All sources that a build includes, if they can be had. -/
def assemble (builder : Builder) (installed : Registrations) (world : World) :
    Except Failure (List Source) := do
  let discovered ← builder.discoveries installed world
  let defaults ← builder.includedDefaults world
  pure (builder.sources ++ discovered ++ defaults)

/-- The registry that a build ends with, if all discovered converters have types. -/
def completeRegistry (builder : Builder) (installed : Registrations) (world : World) :
    Except Failure Registry :=
  if builder.withDiscoveredConverters then
    builder.converters.registerAll
      (builder.discovery.catalog installed world builder.context).converters
  else .ok builder.converters

theorem outcome_includedDiscoveries (asked : List Question) :
    (builder.includedDiscoveries installed world).outcome asked =
      (builder.discoveries installed world, asked ++ builder.sourceQuestions) := by
  rw [includedDiscoveries, discoveries, sourceQuestions]
  cases builder.withDiscoveredSources with
  | true => exact outcome_discoverSources asked
  | false => simp [Preparing.outcome]

theorem outcome_gatherSources (asked : List Question) :
    (builder.gatherSources installed world).outcome asked =
      (builder.assemble installed world, asked ++ builder.sourceQuestions) := by
  rw [gatherSources, assemble, outcome_bind, outcome_includedDiscoveries]
  cases builder.discoveries installed world with
  | error failure => rfl
  | ok discovered =>
      simp only [outcome_bind, outcome_liftM]
      cases builder.includedDefaults world <;> rfl

theorem outcome_gatherConverters (asked : List Question) :
    (builder.gatherConverters installed world).outcome asked =
      (builder.completeRegistry installed world, asked ++ builder.converterQuestions) := by
  rw [gatherConverters, completeRegistry, converterQuestions]
  cases builder.withDiscoveredConverters with
  | true =>
      simp only [if_true]
      rw [outcome_bind, outcome_ask]
      exact outcome_liftM _ _
  | false => simp [Preparing.outcome]

/-- All that can fail has failed, or it has given the sources and the registry. Converters are asked
for once the sources are there. -/
theorem outcome_prepare (asked : List Question) :
    (builder.prepare installed world).outcome asked =
      match builder.assemble installed world with
      | .error failure => (.error failure, asked ++ builder.sourceQuestions)
      | .ok sources =>
        ((builder.completeRegistry installed world).map fun registry => (sources, registry),
          asked ++ builder.sourceQuestions ++ builder.converterQuestions) := by
  rw [prepare, outcome_bind, outcome_gatherSources]
  cases builder.assemble installed world with
  | error failure => rfl
  | ok sources =>
      simp only [outcome_bind, outcome_gatherConverters]
      cases builder.completeRegistry installed world <;> rfl

/-- A build prepares, and reads the ordinals if that has succeeded. -/
theorem build_eq (builder : Builder) (installed : Registrations) (world : World)
    (counters : Counters) :
    builder.build installed world counters =
      match builder.assemble installed world with
      | .error failure => ⟨.error failure, counters, builder.sourceQuestions⟩
      | .ok sources =>
        let asked := builder.sourceQuestions ++ builder.converterQuestions
        match builder.completeRegistry installed world with
        | .error failure => ⟨.error failure, counters, asked⟩
        | .ok registry =>
          let (read, counters) := readOrdinals world counters sources
          ⟨.ok ⟨rank read, registry.finish⟩, counters, asked⟩ := by
  rw [build, outcome_prepare]
  cases builder.assemble installed world with
  | error failure => rfl
  | ok sources => cases builder.completeRegistry installed world <;> rfl

/-- The sources are assembled, the registry is completed, and then nothing can fail any more. -/
theorem build_result_eq (builder : Builder) (installed : Registrations) (world : World)
    (counters : Counters) :
    (builder.build installed world counters).result =
      builder.assemble installed world >>= fun sources =>
        (builder.completeRegistry installed world).map fun registry =>
          ⟨rank (readOrdinals world counters sources).1, registry.finish⟩ := by
  rw [build_eq]
  cases builder.assemble installed world with
  | error failure => rfl
  | ok sources =>
      cases builder.completeRegistry installed world <;> rfl

/-- A successful build has assembled the sources and completed the registry before it read the
ordinals. -/
theorem build_result_eq_ok_iff {builder : Builder} {installed : Registrations} {world : World}
    {counters : Counters} {config : Config} :
    (builder.build installed world counters).result = .ok config ↔
      ∃ sources registry,
        builder.assemble installed world = .ok sources ∧
          builder.completeRegistry installed world = .ok registry ∧
            config = ⟨rank (readOrdinals world counters sources).1, registry.finish⟩ := by
  rw [build_result_eq, bind_eq_ok_iff]
  simp only [map_eq_ok_iff, exists_and_left, eq_comm (a := config)]

/-- Whether and how a build fails has nothing to do with the readings of ordinals. -/
theorem build_result_eq_error_iff {builder : Builder} {installed : Registrations} {world : World}
    {counters : Counters} {failure : Failure} :
    (builder.build installed world counters).result = .error failure ↔
      (builder.assemble installed world >>= fun _ =>
        builder.completeRegistry installed world) = .error failure := by
  rw [build_result_eq]
  cases builder.assemble installed world with
  | error other => simp [bind, Except.bind]
  | ok sources => exact map_eq_error_iff

/-- A successful build leaves the counters as the readings of the assembled sources do. -/
theorem build_counters {builder : Builder} {installed : Registrations} {world : World}
    {counters : Counters} {sources : List Source} {registry : Registry}
    (assembled : builder.assemble installed world = .ok sources)
    (completed : builder.completeRegistry installed world = .ok registry) :
    (builder.build installed world counters).counters =
      (readOrdinals world counters sources).2 := by
  simp only [build_eq, assembled, completed]

end LayeredConfig.Builder
