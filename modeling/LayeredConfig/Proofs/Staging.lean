import LayeredConfig.Build.Builder
import LayeredConfig.Proofs.Traversal

/-!
Sources and converters accumulate in the order of the calls, the last context and the last
discovery count, and an inclusion once asked for stays. So the builder that a successful
sequence of calls leads to can be read off the calls.
-/

namespace LayeredConfig.Builder

open Traversal

/-- What a converter is registered as when nothing is said about it: for the type it declares,
with the priority that it carries itself, or 100 if it carries none. -/
def inferred? (converter : Converter) : Option (ValueType × Registration) :=
  match converter.targetType with
  | .ok target => some (target, ⟨converter.priority.getD 100, converter⟩)
  | .error _ => none

namespace Call

def sources : Call → List Source
  | .addSources sources => sources
  | _ => []

/-- The candidates that a call registers: a conversion with its type and the priority of the call,
or converters as they are registered when nothing is said about them. -/
def candidates : Call → List (ValueType × Registration)
  | .addConverters converters => converters.filterMap inferred?
  | .addConverter target priority name conversion =>
    [(target, ⟨priority, .typed name none target conversion⟩)]
  | _ => []

def context? : Call → Option Context
  | .inContext context => some context
  | _ => none

def discovery? : Call → Option Discovery
  | .discoverIn discovery => some discovery
  | _ => none

def asksDefaults : Call → Bool
  | .includeDefaults => true
  | _ => false

def asksDiscoveredSources : Call → Bool
  | .includeDiscoveredSources => true
  | _ => false

def asksDiscoveredConverters : Call → Bool
  | .includeDiscoveredConverters => true
  | _ => false

/-- Every converter that a call registers for its own type has such a type. -/
def Resolved : Call → Prop
  | .addConverters converters =>
    ∀ converter ∈ converters, ∃ target, converter.targetType = .ok target
  | _ => True

end Call

theorem candidate_eq_ok_iff {converter : Converter} {candidate : ValueType × Registration} :
    converter.candidate = .ok candidate ↔ inferred? converter = some candidate := by
  rw [Converter.candidate, inferred?]
  cases converter.targetType with
  | error failure => simp [Except.map]
  | ok target => simp [Except.map, Converter.effectivePriority, Converter.defaultPriority]

theorem inferred?_isSome_iff {converter : Converter} :
    (∃ candidate, inferred? converter = some candidate) ↔
      ∃ target, converter.targetType = .ok target := by
  rw [inferred?]
  cases converter.targetType <;> simp

theorem inferred?_of_targetType {converter : Converter} {target : ValueType}
    (declared : converter.targetType = .ok target) :
    inferred? converter = some (target, ⟨converter.priority.getD 100, converter⟩) := by
  rw [inferred?, declared]

/-- All converters have candidates exactly if all have types, and none is left out then. -/
theorem forall₂_inferred_iff {converters : List Converter}
    {candidates : List (ValueType × Registration)} :
    List.Forall₂ (fun converter candidate => inferred? converter = some candidate)
        converters candidates ↔
      (∀ converter ∈ converters, ∃ target, converter.targetType = .ok target) ∧
        candidates = converters.filterMap inferred? := by
  induction converters generalizing candidates with
  | nil =>
      rw [List.forall₂_nil_left_iff]
      simp
  | cons converter rest inductionHypothesis =>
      rw [List.forall₂_cons_left_iff, List.forall_mem_cons]
      constructor
      · intro paired
        obtain ⟨candidate, others, head, tail, rfl⟩ := paired
        obtain ⟨resolved, rfl⟩ := inductionHypothesis.mp tail
        refine ⟨⟨inferred?_isSome_iff.mp ⟨candidate, head⟩, resolved⟩, ?_⟩
        rw [List.filterMap_cons_some head]
      · intro complete
        obtain ⟨⟨typed, resolved⟩, rfl⟩ := complete
        obtain ⟨candidate, head⟩ := inferred?_isSome_iff.mpr typed
        refine ⟨candidate, _, head, inductionHypothesis.mpr ⟨resolved, rfl⟩, ?_⟩
        rw [List.filterMap_cons_some head]

/-- Converters are registered for the types they declare exactly if all have one. -/
theorem registerAll_eq_ok_iff {registry after : Registry} {converters : List Converter} :
    registry.registerAll converters = .ok after ↔
      (∀ converter ∈ converters, ∃ target, converter.targetType = .ok target) ∧
        after = registry.registerEach (converters.filterMap inferred?) := by
  rw [Registry.registerAll_eq, map_eq_ok_iff]
  simp only [mapM_eq_ok_iff, candidate_eq_ok_iff, forall₂_inferred_iff]
  constructor
  · intro registered
    obtain ⟨candidates, ⟨resolved, rfl⟩, final⟩ := registered
    exact ⟨resolved, final.symm⟩
  · intro complete
    obtain ⟨resolved, rfl⟩ := complete
    exact ⟨_, ⟨resolved, rfl⟩, rfl⟩

/-- The builder that calls lead to. -/
def staged (start : Builder) (calls : List Call) : Builder where
  sources := start.sources ++ calls.flatMap Call.sources
  converters := start.converters.registerEach (calls.flatMap Call.candidates)
  context := (calls.filterMap Call.context?).getLastD start.context
  discovery := (calls.filterMap Call.discovery?).getLastD start.discovery
  withDefaults := start.withDefaults || calls.any Call.asksDefaults
  withDiscoveredSources :=
    start.withDiscoveredSources || calls.any Call.asksDiscoveredSources
  withDiscoveredConverters :=
    start.withDiscoveredConverters || calls.any Call.asksDiscoveredConverters

theorem staged_nil (start : Builder) : start.staged [] = start := by
  simp [staged, Registry.registerEach]

/-- The last value given by a list is the one given after its first member, if there is
any. -/
private theorem getLastD_filterMap_cons {α β : Type} (f : α → Option β) (first : α)
    (rest : List α) (default : β) :
    ((first :: rest).filterMap f).getLastD default =
      (rest.filterMap f).getLastD (([first].filterMap f).getLastD default) := by
  cases given : f first with
  | none =>
      rw [List.filterMap_cons_none given, List.filterMap_cons_none given]
      rfl
  | some value =>
      rw [List.filterMap_cons_some given, List.filterMap_cons_some given, List.getLastD_cons]
      rfl

theorem staged_cons (start : Builder) (first : Call) (calls : List Call) :
    start.staged (first :: calls) = (start.staged [first]).staged calls := by
  rw [staged, getLastD_filterMap_cons Call.context?, getLastD_filterMap_cons Call.discovery?]
  simp [staged, Registry.registerEach, Bool.or_assoc, -List.getLastD_eq_getLast?]

private theorem staged_addConverters (start : Builder) (converters : List Converter) :
    start.staged [.addConverters converters] =
      { start with
        converters := start.converters.registerEach (converters.filterMap inferred?) } := by
  simp [staged, Call.sources, Call.candidates, Call.context?, Call.discovery?,
    Call.asksDefaults, Call.asksDiscoveredSources, Call.asksDiscoveredConverters]

/-- One call succeeds exactly if it resolves the converters it registers. -/
theorem call_eq_ok_iff {start next : Builder} {call : Call} :
    start.call call = .ok next ↔ call.Resolved ∧ next = start.staged [call] := by
  cases call with
  | addConverters converters =>
      rw [Builder.call, addConverters, map_eq_ok_iff, staged_addConverters]
      simp only [registerAll_eq_ok_iff]
      constructor
      · intro made
        obtain ⟨registry, ⟨resolved, rfl⟩, rfl⟩ := made
        exact ⟨resolved, rfl⟩
      · intro complete
        obtain ⟨resolved, rfl⟩ := complete
        exact ⟨_, ⟨resolved, rfl⟩, rfl⟩
  | _ =>
      simp [Builder.call, addSources, addConverter, staged, Call.Resolved, Call.sources,
        Call.candidates, Call.context?, Call.discovery?, Call.asksDefaults,
        Call.asksDiscoveredSources, Call.asksDiscoveredConverters, Registry.registerEach,
        eq_comm]

/-- Calls succeed exactly if each of them resolves the converters it registers, and then the
builder is the one that can be read off them. -/
theorem callAll_eq_ok_iff {start builder : Builder} {calls : List Call} :
    start.callAll calls = .ok builder ↔
      (∀ call ∈ calls, call.Resolved) ∧ builder = start.staged calls := by
  induction calls generalizing start with
  | nil =>
      rw [callAll, List.foldlM_nil, staged_nil]
      constructor
      · intro made
        exact ⟨by simp, (Except.ok.inj made).symm⟩
      · intro complete
        rw [complete.2]
        rfl
  | cons first rest inductionHypothesis =>
      rw [callAll, List.foldlM_cons, bind_eq_ok_iff, staged_cons, List.forall_mem_cons]
      constructor
      · intro made
        obtain ⟨next, firstMade, remainder⟩ := made
        obtain ⟨resolved, rfl⟩ := call_eq_ok_iff.mp firstMade
        obtain ⟨restResolved, final⟩ := inductionHypothesis.mp remainder
        exact ⟨⟨resolved, restResolved⟩, final⟩
      · intro complete
        obtain ⟨⟨resolved, restResolved⟩, final⟩ := complete
        exact ⟨_, call_eq_ok_iff.mpr ⟨resolved, rfl⟩,
          inductionHypothesis.mpr ⟨restResolved, final⟩⟩

end LayeredConfig.Builder
