import LayeredConfig.Proofs.AtomicRegistration
import LayeredConfig.Proofs.Tally

/-!
# Failing builds

What can go wrong in a build is listed in the order in which the build comes to it: the
discovered providers, the default resources file by file, the discovered converters. A build
fails exactly if something stands in that list, with the first of it. It has then changed
nothing but the questions that are put down, so a session goes on as if it had never been tried.
-/

namespace LayeredConfig

open Traversal

/-- Why a properties file cannot be loaded: it cannot be read, or its content is malformed. -/
def fileFailure? (files : FileSystem) (path : String) : Option Failure :=
  match files.read path with
  | .error cause => some (.file cause)
  | .ok bytes =>
    match Properties.parse (Text.decode bytes) with
    | .error malformed => some (.parse (path ++ ": " ++ malformed.message))
    | .ok _ => none

theorem failure?_loadProperties (files : FileSystem) (path : String) :
    failure? (Source.loadProperties files path) = fileFailure? files path := by
  rw [Source.loadProperties, fileFailure?]
  cases files.read path with
  | error cause => rfl
  | ok bytes =>
      cases parsed : Properties.parse (Text.decode bytes) <;>
        simp [Except.mapError, bind, Except.bind, parsed, pure, Except.pure, failure?]

namespace Builder

/-- The failures of the files that a resource is found in, in the order of the roots. -/
def resourceFailures (files : FileSystem) (context : Context) (resource : String) :
    List Failure :=
  (context.resolve files resource).filterMap (fileFailure? files)

/-- What fails while the sources are assembled, in the order in which a build comes to it: the
discovered providers, the resources of the application, those of the web application. -/
def sourceFailures (builder : Builder) (installed : Registrations) (world : World) :
    List Failure :=
  (if builder.withDiscoveredSources then
      let catalog := builder.discovery.catalog installed world builder.context
      catalog.providers.filterMap fun provider => failure? (provider.sources world builder.context)
    else []) ++
    if builder.withDefaults then
      resourceFailures world.files builder.context "META-INF/microprofile-config.properties" ++
        resourceFailures world.files builder.context
          "WEB-INF/classes/META-INF/microprofile-config.properties"
    else []

/-- The discovered converters that have no type, in the order of their discovery. -/
def converterFailures (builder : Builder) (installed : Registrations) (world : World) :
    List Failure :=
  (builder.discoveredConverters installed world).filterMap Converter.typeFailure?

theorem resourceSources_failsFirst (files : FileSystem) (context : Context)
    (resource : String) :
    FailsFirst (Provider.resourceSources files context resource)
      (resourceFailures files context resource) := by
  have fails := failsFirst_mapM_filterMap (Source.loadProperties files)
    (context.resolve files resource)
  simp only [failure?_loadProperties] at fails
  exact fails

theorem discoveredSources_failsFirst (world : World) (context : Context) (catalog : Catalog) :
    FailsFirst (discoveredSources world context catalog)
      (catalog.providers.filterMap fun provider => failure? (provider.sources world context)) := by
  have fails := (failsFirst_mapM_filterMap (Provider.sources world context)
    catalog.providers).map List.flatten
  exact fails.bind_pure (catalog.sources ++ ·)

theorem defaultSources_failsFirst (world : World) (context : Context) :
    FailsFirst (defaultSources world context)
      (resourceFailures world.files context "META-INF/microprofile-config.properties" ++
        resourceFailures world.files context
          "WEB-INF/classes/META-INF/microprofile-config.properties") := by
  have fails := (failsFirst_mapM (f := fun resource =>
      (Provider.resource resource true).sources world context)
    (resourceSources_failsFirst world.files context) defaultResources).map List.flatten
  have all := fails.bind_pure fun found => Source.environment :: .system :: found
  simpa [defaultSources, Provider.allSources, defaultResources] using all

theorem assemble_failsFirst (builder : Builder) (installed : Registrations) (world : World) :
    FailsFirst (builder.assemble installed world) (builder.sourceFailures installed world) := by
  have discovered := (discoveredSources_failsFirst world builder.context
    (builder.discovery.catalog installed world builder.context)).onDemand
      builder.withDiscoveredSources []
  have defaults := (defaultSources_failsFirst world builder.context).onDemand
    builder.withDefaults []
  exact discovered.bind fun found => defaults.bind_pure (builder.sources ++ found ++ ·)

theorem completeRegistry_failsFirst (builder : Builder) (installed : Registrations)
    (world : World) :
    FailsFirst (builder.completeRegistry installed world)
      (builder.converterFailures installed world) := by
  rw [completeRegistry, converterFailures, discoveredConverters]
  cases builder.withDiscoveredConverters with
  | true => exact Registry.registerAll_failsFirst _ _
  | false => rfl

/-- A build fails with the first failure of its sources, or else of its converters. -/
theorem build_failsFirst (builder : Builder) (installed : Registrations) (world : World)
    (counters : Counters) :
    FailsFirst (builder.build installed world counters).result
      (builder.sourceFailures installed world ++ builder.converterFailures installed world) := by
  have completes (sources : List Source) :
      FailsFirst
        ((builder.completeRegistry installed world).map fun registry =>
          (⟨rank (readOrdinals world counters sources).1, registry.finish⟩ : Config))
        (builder.converterFailures installed world) :=
    (builder.completeRegistry_failsFirst installed world).map _
  have fails := (builder.assemble_failsFirst installed world).bind completes
  rwa [← build_result_eq] at fails

/-- A failing build reads no ordinal. -/
theorem build_counters_of_error {builder : Builder} {installed : Registrations} {world : World}
    {counters : Counters} {failure : Failure}
    (failed : (builder.build installed world counters).result = .error failure) :
    (builder.build installed world counters).counters = counters := by
  rw [build_eq] at failed ⊢
  cases assembled : builder.assemble installed world with
  | error other => rfl
  | ok sources =>
      cases completed : builder.completeRegistry installed world with
      | error other => rfl
      | ok registry => simp [assembled, completed] at failed

/-- Where the sources fail nobody asks for converters. -/
theorem unasked_of_sourceFailures {builder : Builder} {installed : Registrations}
    {world : World} (counters : Counters)
    (fails : builder.sourceFailures installed world ≠ []) :
    ∀ question ∈ (builder.build installed world counters).asked,
      question.query ≠ .converters := by
  obtain ⟨failure, rest, split⟩ := List.exists_cons_of_ne_nil fails
  have first : (builder.sourceFailures installed world).head? = some failure := by
    rw [split]
    rfl
  have failed := (builder.assemble_failsFirst installed world).eq_error_iff.mpr first
  rw [build_eq, failed]
  simp only [sourceQuestions]
  split <;> simp

end Builder

namespace Session

/-- In whatever state, a build fails exactly if something stands in the list of what can go wrong
under the builder's own inclusions, and with the first of it. It has then read no ordinal, it has
not asked for converters if the sources failed, and the session is what it was but for the tally.
So all that follows answers alike, and leads to the same configurations, as if the build had not
been tried. -/
theorem build_fails_with_first (installed : Registrations) (world : World) (counters : Counters)
    (builder : Builder) (configs : List Config) (asked : List Question) :
    let session : Session := ⟨world, counters, some builder, configs, asked⟩
    let outcome := builder.build installed world counters
    let after := (session.step installed .build).2
    (∀ failure,
        outcome.result = .error failure ↔
          (builder.sourceFailures installed world ++
            builder.converterFailures installed world).head? = some failure) ∧
      ∀ failure, outcome.result = .error failure →
        (session.step installed .build).1 = .failed failure ∧
          outcome.counters = counters ∧
            (builder.sourceFailures installed world ≠ [] →
              ∀ question ∈ outcome.asked, question.query ≠ .converters) ∧
              after = { session with asked := asked ++ outcome.asked } ∧
                ∀ steps,
                  (session.run installed steps).1.map Answer.untallied =
                      (after.run installed steps).1.map Answer.untallied ∧
                    (after.run installed steps).2 =
                      { (session.run installed steps).2 with
                        asked := (after.run installed steps).2.asked } := by
  intro session outcome after
  refine ⟨fun failure => (builder.build_failsFirst installed world counters).eq_error_iff, ?_⟩
  intro failure failed
  have unread : outcome.counters = counters := Builder.build_counters_of_error failed
  have step : session.step installed .build =
      (.failed failure, { session with asked := asked ++ outcome.asked }) := by
    have counted : (builder.build installed world counters).counters = counters := unread
    have unsuccessful : (builder.build installed world counters).result = .error failure := failed
    simp only [session, outcome, Session.step, Session.build, unsuccessful, counted]
  refine ⟨congrArg Prod.fst step, unread,
    Builder.unasked_of_sourceFailures counters, congrArg Prod.snd step, ?_⟩
  intro steps
  have alike := session.run_alike (asked ++ outcome.asked) installed steps
  rw [show after = _ from congrArg Prod.snd step]
  exact alike

/-- A resource of the web application below the first root is malformed, one of the application
below the second cannot be read, and a discovered converter has no type. The second of these
counts; the counting source is left where it was, and nobody asks for the converter. -/
theorem build_fails_with_first_contested :
    let world : World :=
      ⟨⟨"<cwd>",
          [(["a"], .directory), (["a", "WEB-INF"], .directory),
            (["a", "WEB-INF", "classes"], .directory),
            (["a", "WEB-INF", "classes", "META-INF"], .directory),
            (["a", "WEB-INF", "classes", "META-INF", "microprofile-config.properties"],
              .file "k=\\u12".toUTF8),
            (["b"], .directory), (["b", "META-INF"], .directory),
            (["b", "META-INF", "microprofile-config.properties"],
              .unreadable (.other "Permission denied (os error 13)"))]⟩,
        .empty, .empty⟩
    let catalog : Catalog :=
      ⟨[.counting "counter" 0 1], [.fixed []],
        [.raw "untyped" none none fun value => .error (.noSuchProperty value)]⟩
    let builder : Builder :=
      { Builder.new world with
        context := ⟨["a", "b"]⟩, discovery := .listed catalog, withDefaults := true,
        withDiscoveredSources := true, withDiscoveredConverters := true }
    let refused : Failure := .file (.other "Permission denied (os error 13)")
    let malformed : Failure :=
      .parse ("a/WEB-INF/classes/META-INF/microprofile-config.properties" ++
        ": malformed \\u escape '\\u12'")
    let outcome := builder.build .empty world ⟨1, [100]⟩
    builder.sourceFailures .empty world ++ builder.converterFailures .empty world =
        [refused, malformed, .unresolvedType "untyped"] ∧
      outcome.result = .error refused ∧ outcome.counters = ⟨1, [100]⟩ ∧
        ∀ question ∈ outcome.asked, question.query ≠ .converters := by
  intro world catalog builder refused malformed outcome
  have listed : builder.sourceFailures .empty world ++ builder.converterFailures .empty world =
      [refused, malformed, .unresolvedType "untyped"] := by decide +kernel
  have sourcesFail : builder.sourceFailures .empty world ≠ [] := by decide +kernel
  obtain ⟨fails, failing⟩ := build_fails_with_first .empty world ⟨1, [100]⟩ builder [] []
  have failed : outcome.result = .error refused := (fails refused).mpr (by rw [listed]; rfl)
  obtain ⟨-, unread, unasked, -⟩ := failing refused failed
  exact ⟨listed, failed, unread, unasked sourcesFail⟩

end Session

end LayeredConfig
