import LayeredConfig.Proofs.Frames
import LayeredConfig.Proofs.Rebuilding

/-!
# Snapshots

A configuration that a session has built is a snapshot: later steps do not change it. In the
same way a build leaves its builder as it was. What the next build comes to depends on the calls
to the builder and on the world, and not on the builds before it: these have moved what the
counters hold, but not how many there are.
-/

namespace LayeredConfig

theorem Source.ordinal_started (world : World) (counters : Counters) (source : Source) :
    (source.ordinal world counters).2.started = counters.started := by
  cases source <;> rfl

theorem Builder.readOrdinals_started (world : World) (counters : Counters)
    (sources : List Source) :
    (readOrdinals world counters sources).2.started = counters.started := by
  induction sources generalizing counters with
  | nil => rfl
  | cons source rest inductionHypothesis =>
      exact (inductionHypothesis _).trans (source.ordinal_started world counters)

theorem Builder.build_started (builder : Builder) (installed : Registrations) (world : World)
    (counters : Counters) :
    (builder.build installed world counters).counters.started = counters.started := by
  rw [build_eq]
  cases builder.assemble installed world with
  | error failure => rfl
  | ok sources =>
      cases builder.completeRegistry installed world with
      | error failure => rfl
      | ok registry => exact readOrdinals_started world counters sources

theorem Config.ranking_started (world : World) (counters : Counters) (sources : List Source) :
    (ranking world counters sources).2.started = counters.started := by
  induction sources generalizing counters with
  | nil => rfl
  | cons source rest inductionHypothesis =>
      exact (inductionHypothesis _).trans (source.ordinal_started world counters)

/-- Two attempts to make something have come to the same: to one failure, or to one result, after
which as many counters have been started. What the counters hold may differ. -/
inductive MadeAlike {α : Type} :
    Except Failure (α × Counters) → Except Failure (α × Counters) → Prop
  | failed (failure : Failure) : MadeAlike (.error failure) (.error failure)
  | made (value : α) {left right : Counters} (started : left.started = right.started) :
      MadeAlike (.ok (value, left)) (.ok (value, right))

theorem MadeAlike.of_started {α : Type} {left right : Counters}
    (started : left.started = right.started) (made : Except Failure α) :
    MadeAlike (made.map (·, left)) (made.map (·, right)) := by
  cases made with
  | error failure => exact .failed failure
  | ok value => exact .made value started

theorem MadeAlike.bind {α β : Type} {left right : Except Failure (α × Counters)}
    {leftNext rightNext : α × Counters → Except Failure (β × Counters)}
    (alike : MadeAlike left right)
    (nextAlike : ∀ value {leftCounters rightCounters : Counters},
      leftCounters.started = rightCounters.started →
        MadeAlike (leftNext (value, leftCounters)) (rightNext (value, rightCounters))) :
    MadeAlike (left >>= leftNext) (right >>= rightNext) := by
  cases alike with
  | failed failure => exact .failed failure
  | made value started => exact nextAlike value started

section Requests

variable {left right : Counters} (files : FileSystem)

/-- A counting source is numbered by the counters that have been started before it. -/
theorem SourceRequest.make_alike (started : left.started = right.started)
    (request : SourceRequest) :
    MadeAlike (request.make files left) (request.make files right) := by
  cases request with
  | counting name first step =>
      rw [make, make, Counters.start, Counters.start, started]
      exact .made _ rfl
  | propertiesFile path => exact .of_started started _
  | structuredFile path => exact .of_started started _
  | _ => exact .made _ started

theorem SourceRequest.makeAll_alike (started : left.started = right.started)
    (requests : List SourceRequest) :
    MadeAlike (makeAll files left requests) (makeAll files right requests) := by
  induction requests generalizing left right with
  | nil => exact .made _ started
  | cons request rest inductionHypothesis =>
      apply (request.make_alike files started).bind
      intro source _ _ started
      apply (inductionHypothesis started).bind
      intro sources _ _ started
      exact .made _ started

theorem ProviderRequest.make_alike (started : left.started = right.started)
    (request : ProviderRequest) :
    MadeAlike (request.make files left) (request.make files right) := by
  cases request with
  | fixed requests =>
      have alike := SourceRequest.makeAll_alike files started requests
      rw [make, make]
      generalize SourceRequest.makeAll files left requests = leftMade at alike ⊢
      generalize SourceRequest.makeAll files right requests = rightMade at alike ⊢
      cases alike with
      | failed failure => exact .failed failure
      | made sources started => exact .made _ started
  | _ => exact .made _ started

theorem ProviderRequest.makeAll_alike (started : left.started = right.started)
    (requests : List ProviderRequest) :
    MadeAlike (makeAll files left requests) (makeAll files right requests) := by
  induction requests generalizing left right with
  | nil => exact .made _ started
  | cons request rest inductionHypothesis =>
      apply (request.make_alike files started).bind
      intro provider _ _ started
      apply (inductionHypothesis started).bind
      intro providers _ _ started
      exact .made _ started

theorem Session.makeCatalog_alike (started : left.started = right.started)
    (sources : List SourceRequest) (providers : List ProviderRequest)
    (converters : List Converter) :
    MadeAlike (makeCatalog files left sources providers converters)
      (makeCatalog files right sources providers converters) := by
  apply (SourceRequest.makeAll_alike files started sources).bind
  intro sources _ _ started
  apply (ProviderRequest.makeAll_alike files started providers).bind
  intro providers _ _ started
  exact .made _ started

end Requests

def Step.isBuild : Step → Bool
  | .build => true
  | _ => false

namespace Session

/-- How far a session has come, whatever it has built: its world, its builder, and how many
counters it has started. -/
structure Stage where
  world : World
  builder? : Option Builder
  started : Nat

def stage (session : Session) : Stage :=
  ⟨session.world, session.builder?, session.counters.started⟩

variable {left right : Session}

theorem call_stage (same : left.stage = right.stage) (call : Builder.Call) :
    (left.call call).2.stage = (right.call call).2.stage := by
  obtain ⟨world, leftCounters, builder?, leftConfigs, leftAsked⟩ := left
  obtain ⟨_, rightCounters, _, rightConfigs, rightAsked⟩ := right
  obtain ⟨rfl, rfl, started⟩ := Stage.mk.inj same
  cases builder? with
  | none => exact same
  | some builder =>
      rw [Session.call, Session.call]
      simp only
      cases builder.call call with
      | error failure => exact congrArg (Stage.mk world none) started
      | ok changed => exact congrArg (Stage.mk world (some changed)) started

theorem addSources_stage (same : left.stage = right.stage) (requests : List SourceRequest)
    (times : Nat) :
    (left.addSources requests times).2.stage = (right.addSources requests times).2.stage := by
  obtain ⟨world, leftCounters, builder?, leftConfigs, leftAsked⟩ := left
  obtain ⟨_, rightCounters, _, rightConfigs, rightAsked⟩ := right
  obtain ⟨rfl, rfl, started⟩ := Stage.mk.inj same
  have alike := SourceRequest.makeAll_alike world.files started requests
  cases builder? with
  | none => exact same
  | some builder =>
      rw [Session.addSources, Session.addSources]
      simp only
      generalize SourceRequest.makeAll world.files leftCounters requests = leftMade at alike ⊢
      generalize SourceRequest.makeAll world.files rightCounters requests = rightMade at alike ⊢
      cases alike with
      | failed failure => exact same
      | made sources started =>
          apply call_stage
          exact congrArg (Stage.mk world (some builder)) started

theorem discover_stage (same : left.stage = right.stage) (sources : List SourceRequest)
    (providers : List ProviderRequest) (converters : List Converter) :
    (left.discover sources providers converters).2.stage =
      (right.discover sources providers converters).2.stage := by
  obtain ⟨world, leftCounters, builder?, leftConfigs, leftAsked⟩ := left
  obtain ⟨_, rightCounters, _, rightConfigs, rightAsked⟩ := right
  obtain ⟨rfl, rfl, started⟩ := Stage.mk.inj same
  have alike := makeCatalog_alike world.files started sources providers converters
  cases builder? with
  | none => exact same
  | some builder =>
      rw [Session.discover, Session.discover]
      simp only
      generalize makeCatalog world.files leftCounters sources providers converters = leftMade
        at alike ⊢
      generalize makeCatalog world.files rightCounters sources providers converters = rightMade
        at alike ⊢
      cases alike with
      | failed failure => exact same
      | made catalog started =>
          apply call_stage
          exact congrArg (Stage.mk world (some builder)) started

theorem discoverInstalled_stage (same : left.stage = right.stage) :
    left.discoverInstalled.2.stage = right.discoverInstalled.2.stage := by
  obtain ⟨world, leftCounters, builder?, leftConfigs, leftAsked⟩ := left
  obtain ⟨_, rightCounters, _, rightConfigs, rightAsked⟩ := right
  obtain ⟨rfl, rfl, started⟩ := Stage.mk.inj same
  cases builder? with
  | none => exact same
  | some builder =>
      rw [discoverInstalled, discoverInstalled]
      apply call_stage
      exact congrArg (Stage.mk world (some builder)) started

section Questions

variable (session : Session)

/-- A build reads ordinals, and it leaves its builder. -/
theorem build_stage (installed : Registrations) :
    (session.build installed).2.stage = session.stage := by
  obtain ⟨world, counters, _ | builder, configs, asked⟩ := session
  · rfl
  · have started := builder.build_started installed world counters
    rw [Session.build]
    simp only
    cases (builder.build installed world counters).result with
    | error failure => exact congrArg (Stage.mk world (some builder)) started
    | ok config =>
        have ranked := Config.ranking_started world
          (builder.build installed world counters).counters config.sources
        exact congrArg (Stage.mk world (some builder)) (ranked.trans started)

theorem onConfig_stage (on : Option Nat) (ask : Config → Answer) :
    (session.onConfig on ask).2.stage = session.stage := by
  rw [onConfig]
  cases session.config? on <;> rfl

theorem onRanking_stage (on : Option Nat) (ask : Config → List (String × Int) → Answer) :
    (session.onRanking on ask).2.stage = session.stage := by
  rw [onRanking]
  cases session.config? on with
  | none => rfl
  | some config =>
      exact congrArg (Stage.mk session.world session.builder?)
        (Config.ranking_started session.world session.counters config.sources)

theorem copy_stage (on : Option Nat) : (session.copy on).2.stage = session.stage := by
  rw [copy]
  cases session.config? on <;> rfl

end Questions

/-- How far one step leads depends on how far the session has come. -/
theorem step_stage (same : left.stage = right.stage) (installed : Registrations) (next : Step) :
    (left.step installed next).2.stage = (right.step installed next).2.stage := by
  have onConfig (on : Option Nat) (leftAsk rightAsk : Config → Answer) :
      (left.onConfig on leftAsk).2.stage = (right.onConfig on rightAsk).2.stage := by
    rw [onConfig_stage, onConfig_stage, same]
  have onRanking (on : Option Nat) (ask : Config → List (String × Int) → Answer) :
      (left.onRanking on ask).2.stage = (right.onRanking on ask).2.stage := by
    rw [onRanking_stage, onRanking_stage, same]
  obtain ⟨world, builder?, started⟩ := Stage.mk.inj same
  cases next with
  | context ambient roots =>
      rw [Session.step, Session.step, world]
      exact call_stage same _
  | call _ | includeDefaults | includeDiscoveredSources | includeDiscoveredConverters
  | addConverters _ | addConverter _ _ _ _ =>
      exact call_stage same _
  | discoverInstalled => exact discoverInstalled_stage same
  | discover sources providers converters =>
      exact discover_stage same sources providers converters
  | addSources requests times => exact addSources_stage same requests times
  | build => rw [Session.step, Session.step, build_stage, build_stage, same]
  | copy on => rw [Session.step, Session.step, copy_stage, copy_stage, same]
  | ranking on => exact onRanking on _
  | debug on => exact onRanking on _
  | converters _ | names _ | raw _ _ | value _ _ _ | optionalValue _ _ _ | convert _ _ _
  | sourceValue _ _ _ | sourceProperties _ _ | bind _ _ =>
      exact onConfig _ _ _
  | new | queries | setVariable _ _ | unsetVariable _ | write _ _ | delete _ | setProperty _ _
  | removeProperty _ =>
      simp only [Session.step, onWorld, stage, world, builder?, started]

/-- A run without the builds of another one comes as far as that. -/
theorem run_stage (same : left.stage = right.stage) (installed : Registrations)
    (steps : List Step) :
    (left.run installed steps).2.stage =
      (right.run installed (steps.filter fun next => !next.isBuild)).2.stage := by
  induction steps generalizing left right with
  | nil => exact same
  | cons next rest inductionHypothesis =>
      -- the second run lacks the builds of the first one, and nothing else
      by_cases builds : next.isBuild
      · have isBuild : next = .build := by
          cases next with
          | build => rfl
          | _ => cases builds
        rw [isBuild, List.filter_cons_of_neg (by decide)]
        exact inductionHypothesis ((left.build_stage installed).trans same)
      · rw [List.filter_cons_of_pos (by simpa using builds)]
        exact inductionHypothesis (step_stage same installed next)

/-! ## Builds at the end of runs -/

/-- A build of the builder in a session. It gives what it would give in another session, but for
the places of sources with moving ordinals, and the very same where there are none: the sources
that the builder includes now, each as often as it is included. It asks the discovery for whatever
is to be discovered, adds one configuration to those that are there, and leaves the builder. -/
structure BuildsAnew (installed : Registrations) (session fresh : Session) (builder : Builder) :
    Prop where
  fails : ∀ failure,
    (builder.build installed session.world session.counters).result = .error failure ↔
      (builder.build installed fresh.world fresh.counters).result = .error failure
  gives : ∀ config,
    (builder.build installed session.world session.counters).result = .ok config →
      ∃ again, (builder.build installed fresh.world fresh.counters).result = .ok again ∧
        Builder.SameButMoving session.world config again
  repeats : ∀ config,
    (builder.build installed session.world session.counters).result = .ok config →
      (∀ source ∈ config.sources, ∃ number, Builder.Steady session.world source number) →
        (builder.build installed fresh.world fresh.counters).result = .ok config
  includes : ∀ config,
    (builder.build installed session.world session.counters).result = .ok config →
      ∃ assembly, Builder.IsAssembly builder installed session.world assembly ∧
        config.sources.Perm assembly
  adds : ∀ config,
    (builder.build installed session.world session.counters).result = .ok config →
      (session.build installed).2.configs = session.configs ++ [config] ∧
        (session.build installed).2.asked = session.asked ++
          ((if builder.withDiscoveredSources then
              [⟨builder.discovery, .sources⟩, ⟨builder.discovery, .providers⟩]
            else []) ++
            if builder.withDiscoveredConverters then [⟨builder.discovery, .converters⟩] else [])
  leaves : (session.build installed).2.builder? = some builder

theorem buildsAnew_of_stage (same : left.stage = right.stage) {builder : Builder}
    (present : left.builder? = some builder) (installed : Registrations) :
    BuildsAnew installed left right builder := by
  obtain ⟨world, _, _⟩ := Stage.mk.inj same
  obtain ⟨fails, gives, _⟩ :=
    builder.build_with_other_counters installed left.world left.counters right.counters
  refine ⟨?_, ?_, ?_, ?_, ?_, ?_⟩
  · rw [← world]
    exact fails
  · rw [← world]
    exact gives
  · rw [← world]
    intro config built steady
    obtain ⟨again, rebuilt, alike⟩ := gives config built
    rw [alike.eq_of_steady steady]
    exact rebuilt
  · intro config built
    obtain ⟨sources, registry, assembled, _, rfl⟩ := Builder.build_result_eq_ok_iff.mp built
    exact ⟨sources, Builder.assemble_eq_ok_iff.mp assembled,
      Builder.rank_readOrdinals_perm left.world left.counters sources⟩
  · intro config built
    obtain ⟨sources, registry, assembled, completed, _⟩ := Builder.build_result_eq_ok_iff.mp built
    have asked : (builder.build installed left.world left.counters).asked =
        builder.sourceQuestions ++ builder.converterQuestions := by
      simp only [Builder.build_eq, assembled, completed]
    rw [Session.build, present]
    simp only [built, asked, true_and]
    rfl
  · have stage := Stage.mk.inj (left.build_stage installed)
    rw [stage.2.1, present]

/-- After any run the configurations that were there are there. They say the same unless the run
has changed a part of the world at which one of their own sources looks: the environment, the
system properties, or what a source of the program's own looks at. How far the run has come is
what it would be without any of its builds, and so is what a build gives next. -/
theorem run_isolates_snapshots
    (installed : Registrations) (session : Session) (steps : List Step) :
    let after := (session.run installed steps).2
    let unbuilt := (session.run installed (steps.filter fun next => !next.isBuild)).2
    (∀ (index : Nat) (config : Config), session.configs[index]? = some config →
        after.configs[index]? = some config) ∧
      (∀ config : Config,
        (∀ source ∈ config.sources, source.isCustom →
          ∀ part, source.LooksAt part → Spares steps part) →
          (.environment ∈ config.sources → Spares steps .environment) →
            (.system ∈ config.sources → Spares steps .system) →
              config.Unmoved session.world after.world) ∧
        after.stage = unbuilt.stage ∧
          ∀ builder, after.builder? = some builder →
            BuildsAnew installed after unbuilt builder := by
  intro after unbuilt
  have same : after.stage = unbuilt.stage := run_stage rfl installed steps
  refine ⟨?_, ?_, same, ?_⟩
  · intro index config present
    obtain ⟨_, more, configs⟩ := session.run_frame installed steps
    have inside : index < session.configs.length := by
      obtain ⟨bound, _⟩ := List.getElem?_eq_some_iff.mp present
      exact bound
    rw [configs, List.getElem?_append_left inside, present]
  · intro config custom environment system
    exact unmoved_by_run custom environment system
  · intro builder present
    exact buildsAnew_of_stage same present installed

/-- A configuration of a properties file, a counting source, and a source of the program's own that
looks at the system properties. Then the file and the environment change, and so does what there is
to be discovered; another counting source is added, and one more configuration is built. -/
theorem run_isolates_snapshots_counting :
    let files : FileSystem := ⟨"<cwd>", [(["a"], .file "key=loaded".toUTF8)]⟩
    let world : World := ⟨files, .empty, .empty⟩
    let live : Source :=
      .custom "live" World.system (fun world key => world.system.find? key)
        fun _ cells => (50, cells)
    let discovery : Discovery :=
      .custom fun world _ =>
        ⟨(world.environment.text? "MODULE").toList.map fun name => .plain name .empty, [], []⟩
    let first : List Step :=
      [.addSources [.counting "counter" 0 150, .propertiesFile "a"] 1, .call (.addSources [live]),
        .call (.discoverIn discovery), .includeDiscoveredSources, .build]
    let later : List Step :=
      [.write "a" "key=written".toUTF8, .setVariable "key" "live".toUTF8,
        .setVariable "MODULE" "late".toUTF8, .copy none, .addSources [.counting "other" 7 1] 2,
        .build]
    let session := ((Session.start world).run .empty first).2
    let after := (session.run .empty later).2
    let unbuilt := (session.run .empty (later.filter fun next => !next.isBuild)).2
    ∃ config builder,
      session.configs[0]? = some config ∧ live ∈ config.sources ∧
        (∀ source ∈ config.sources, source.isCustom →
          ∀ part, source.LooksAt part → Spares later part) ∧
          .environment ∉ config.sources ∧ .system ∉ config.sources ∧
            after.builder? = some builder ∧ builder.discovery = discovery ∧
              (discovery.catalog .empty session.world builder.context).sources = [] ∧
                (discovery.catalog .empty after.world builder.context).sources =
                    [.plain "late" .empty] ∧
                  after.configs[0]? = some config ∧
                    config.Unmoved session.world after.world ∧
                      after.stage = unbuilt.stage ∧ BuildsAnew .empty after unbuilt builder := by
  intro files world live discovery first later session after unbuilt
  let loaded : Source := .propertiesFile "a" (NameMap.ofList [("key", "loaded")])
  let included : List Source := [.counting "counter" 0 150, loaded, live]
  let config : Config := ⟨Builder.rank (Builder.readOrdinals world ⟨1, [0]⟩ included).1, []⟩
  have present : session.configs[0]? = some config := rfl
  have builds : after.builder? = some _ := rfl
  have sources (source : Source) : source ∈ config.sources ↔ source ∈ included :=
    (Builder.rank_readOrdinals_perm world ⟨1, [0]⟩ included).mem_iff
  have worldBefore : session.world = world := ((start world).run_frame .empty first).1
  have worldNow : after.world = later.foldl (fun world next => next.change world) world := by
    rw [← worldBefore]
    exact (session.run_frame .empty later).1
  have before (context : Context) :
      (discovery.catalog .empty session.world context).sources = [] := by
    rw [worldBefore]
    rfl
  have now (context : Context) :
      (discovery.catalog .empty after.world context).sources = [.plain "late" .empty] := by
    rw [worldNow]
    rfl
  have spared : ∀ source ∈ config.sources, source.isCustom →
      ∀ part, source.LooksAt part → Spares later part := by
    intro source member own part looks
    rw [sources] at member
    simp only [included, List.mem_cons, List.not_mem_nil, or_false] at member
    obtain rfl | rfl | rfl := member
    · cases own
    · cases own
    · obtain ⟨_, _, differ⟩ := looks
      cases part with
      | system => simp [Spares, later, Step.changes]
      | _ => exact absurd rfl differ
  have noEnvironment : .environment ∉ config.sources := by
    rw [sources]
    simp [included, loaded, live]
  have noSystem : .system ∉ config.sources := by
    rw [sources]
    simp [included, loaded, live]
  obtain ⟨keeps, answers, same, anew⟩ := run_isolates_snapshots .empty session later
  have unmoved : config.Unmoved session.world after.world := by
    apply answers config spared
    · exact fun member => absurd member noEnvironment
    · exact fun member => absurd member noSystem
  have isLive : live ∈ config.sources := (sources live).mpr (by simp [included])
  exact ⟨config, _, present, isLive, spared, noEnvironment, noSystem, builds, rfl, before _, now _,
    keeps 0 config present, unmoved, same, anew _ builds⟩

end Session

end LayeredConfig
