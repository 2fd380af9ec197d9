import LayeredConfig.Session.Basic

/-!
A session puts down the questions that were put to its discovery. Nothing but the answer that
tells their numbers depends on them, so sessions that differ in them alone go on alike, however
many steps are taken.
-/

namespace LayeredConfig

/-- The answer without the numbers of a tally. -/
def Answer.untallied : Answer → Answer
  | .queries _ _ _ => .queries 0 0 0
  | answer => answer

namespace Session

/-- Sessions that differ in their tally at most. -/
def Alike (left right : Session) : Prop :=
  right = { left with asked := right.asked }

/-- Answers that differ in the numbers of a tally at most, from steps to sessions that differ in
their tally at most. -/
def GoAlike (left right : Answer × Session) : Prop :=
  left.1.untallied = right.1.untallied ∧ Alike left.2 right.2

variable (session : Session) (asked : List Question)

theorem call_alike (call : Builder.Call) :
    GoAlike (session.call call) ({ session with asked }.call call) := by
  obtain ⟨world, counters, _ | builder, configs, own⟩ := session
  · exact ⟨rfl, rfl⟩
  · cases called : builder.call call <;>
      simp [Session.call, called, GoAlike, Alike]

theorem onConfig_alike (on : Option Nat) (ask : Config → Answer) :
    GoAlike (session.onConfig on ask) ({ session with asked }.onConfig on ask) := by
  have same : { session with asked }.config? on = session.config? on := rfl
  rw [onConfig, onConfig, same]
  cases session.config? on <;> exact ⟨rfl, rfl⟩

theorem onRanking_alike (on : Option Nat) (ask : Config → List (String × Int) → Answer) :
    GoAlike (session.onRanking on ask) ({ session with asked }.onRanking on ask) := by
  have same : { session with asked }.config? on = session.config? on := rfl
  rw [onRanking, onRanking, same]
  cases session.config? on <;> exact ⟨rfl, rfl⟩

theorem copy_alike (on : Option Nat) :
    GoAlike (session.copy on) ({ session with asked }.copy on) := by
  have same : { session with asked }.config? on = session.config? on := rfl
  rw [copy, copy, same]
  cases session.config? on <;> exact ⟨rfl, rfl⟩

theorem addSources_alike (requests : List SourceRequest) (times : Nat) :
    GoAlike (session.addSources requests times)
      ({ session with asked }.addSources requests times) := by
  obtain ⟨world, counters, _ | builder, configs, own⟩ := session
  · exact ⟨rfl, rfl⟩
  · rw [addSources, addSources]
    simp only
    cases SourceRequest.makeAll world.files counters requests with
    | error failure => exact ⟨rfl, rfl⟩
    | ok made => exact call_alike _ asked _

/-- A new discovery starts a new tally. -/
theorem discover_alike (sources : List SourceRequest) (providers : List ProviderRequest)
    (converters : List Converter) :
    GoAlike (session.discover sources providers converters)
      ({ session with asked }.discover sources providers converters) := by
  obtain ⟨world, counters, _ | builder, configs, own⟩ := session
  · exact ⟨rfl, rfl⟩
  · rw [discover, discover]
    simp only
    split
    · exact ⟨rfl, rfl⟩
    · exact call_alike _ [] _

theorem discoverInstalled_alike :
    GoAlike session.discoverInstalled { session with asked }.discoverInstalled := by
  obtain ⟨world, counters, _ | builder, configs, own⟩ := session
  · exact ⟨rfl, rfl⟩
  · exact call_alike _ [] _

theorem build_alike (installed : Registrations) :
    GoAlike (session.build installed) ({ session with asked }.build installed) := by
  obtain ⟨world, counters, _ | builder, configs, own⟩ := session
  · exact ⟨rfl, rfl⟩
  · rw [Session.build, Session.build]
    simp only
    cases (builder.build installed world counters).result <;> exact ⟨rfl, rfl⟩

/-- One step of two sessions that differ in their tally. -/
theorem step_alike (installed : Registrations) (next : Step) :
    GoAlike (session.step installed next) ({ session with asked }.step installed next) := by
  cases next with
  | addSources requests times => exact session.addSources_alike asked requests times
  | discover sources providers converters =>
      exact session.discover_alike asked sources providers converters
  | discoverInstalled => exact session.discoverInstalled_alike asked
  | build => exact session.build_alike asked installed
  | copy on => exact session.copy_alike asked on
  | ranking on => exact session.onRanking_alike asked on _
  | debug on => exact session.onRanking_alike asked on _
  | call _ | context _ _ | includeDefaults | includeDiscoveredSources
  | includeDiscoveredConverters | addConverters _ | addConverter _ _ _ _ =>
      exact session.call_alike asked _
  | converters _ | names _ | raw _ _ | value _ _ _ | optionalValue _ _ _ | convert _ _ _
  | sourceValue _ _ _ | sourceProperties _ _ | bind _ _ =>
      exact session.onConfig_alike asked _ _
  | new | queries | setVariable _ _ | unsetVariable _ | write _ _ | delete _
  | setProperty _ _ | removeProperty _ =>
      exact ⟨rfl, rfl⟩

/-- All steps of two sessions that differ in their tally. -/
theorem run_alike (installed : Registrations) (steps : List Step) :
    (session.run installed steps).1.map Answer.untallied =
        ({ session with asked }.run installed steps).1.map Answer.untallied ∧
      Alike (session.run installed steps).2 ({ session with asked }.run installed steps).2 := by
  induction steps generalizing session asked with
  | nil => exact ⟨rfl, rfl⟩
  | cons next rest inductionHypothesis =>
      obtain ⟨sameAnswer, sameSession⟩ := session.step_alike asked installed next
      have later := inductionHypothesis (session.step installed next).2
        ({ session with asked }.step installed next).2.asked
      rw [← sameSession] at later
      rw [run, run, List.map_cons, List.map_cons, sameAnswer, later.1]
      exact ⟨rfl, later.2⟩

end Session

end LayeredConfig
