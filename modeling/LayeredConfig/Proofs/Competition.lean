import LayeredConfig.Proofs.Foremost
import LayeredConfig.Proofs.Preparation
import LayeredConfig.Proofs.Staging

/-!
# Competition of converters

Converters reach a registry in three ways: with a type and a priority given by hand, with those
they carry themselves, and by discovery. Whichever way they come, a registry only ever keeps the
leader of the registrations of a type. So the converters of a configuration can be read off the
calls: for each type, the first of those registrations that nothing outranks.
-/

namespace LayeredConfig

namespace Registry

/-- The registrations for a type, in their order. -/
def contenders (target : ValueType) (candidates : List (ValueType × Registration)) :
    List Registration :=
  (candidates.filter fun candidate => candidate.1 = target).map Prod.snd

/-- The earliest of the registrations with the greatest priority. -/
def Leads (contenders : List Registration) (leader : Registration) : Prop :=
  ∃ earlier later,
    contenders = earlier ++ leader :: later ∧
      (∀ other ∈ earlier, other.priority < leader.priority) ∧
        ∀ other ∈ later, other.priority ≤ leader.priority

theorem mem_contenders
    {target : ValueType} {candidates : List (ValueType × Registration)}
    {registration : Registration} :
    registration ∈ contenders target candidates ↔ (target, registration) ∈ candidates := by
  rw [contenders, List.mem_map]
  constructor
  · intro mapped
    obtain ⟨candidate, member, rfl⟩ := mapped
    obtain ⟨present, targeted⟩ := List.mem_filter.mp member
    have sameTarget : candidate.1 = target := by simpa using targeted
    rw [← sameTarget]
    exact present
  · intro present
    exact ⟨(target, registration), List.mem_filter.mpr ⟨present, by simp⟩, rfl⟩

theorem contenders_ne_nil_iff
    {target : ValueType} {candidates : List (ValueType × Registration)} :
    contenders target candidates ≠ [] ↔
      ∃ registration, (target, registration) ∈ candidates := by
  simp only [← mem_contenders]
  constructor
  · exact List.exists_mem_of_ne_nil _
  · intro present
    obtain ⟨registration, member⟩ := present
    exact List.ne_nil_of_mem member

private theorem contenders_append_self
    (target : ValueType) (candidates : List (ValueType × Registration))
    (newcomer : Registration) :
    contenders target (candidates ++ [(target, newcomer)]) =
      contenders target candidates ++ [newcomer] := by
  simp [contenders]

private theorem contenders_append_of_ne
    {type target : ValueType} (different : type ≠ target)
    (candidates : List (ValueType × Registration)) (newcomer : Registration) :
    contenders type (candidates ++ [(target, newcomer)]) = contenders type candidates := by
  simp [contenders, different.symm]

/-- A leader is the foremost of its contenders by priority. -/
theorem Leads.foremost
    {contenders : List Registration} {leader : Registration}
    (leads : Leads contenders leader) :
    Foremost Registration.priority contenders leader :=
  leads

/-- What is registered for a type after its contenders: nothing if there were none, and their
leader otherwise. -/
def Settled (contenders : List Registration) : Option Registration → Prop
  | none => contenders = []
  | some incumbent => Leads contenders incumbent

/-- A registry that is settled for every type. -/
def Reflects (registry : Registry) (candidates : List (ValueType × Registration)) : Prop :=
  ∀ target, Settled (contenders target candidates) (registry.registration? target)

theorem Settled.next
    {contenders : List Registration} {incumbent : Option Registration}
    (settled : Settled contenders incumbent) (newcomer : Registration) :
    Settled (contenders ++ [newcomer])
      (if outranks newcomer.priority incumbent then some newcomer else incumbent) := by
  cases incumbent with
  | none =>
      have noContenders : contenders = [] := settled
      rw [noContenders]
      exact ⟨[], [], rfl, by simp, by simp⟩
  | some leader =>
      have leads : Leads contenders leader := settled
      by_cases greater : leader.priority < newcomer.priority
      · simp only [outranks, greater, decide_true, if_true]
        exact leads.foremost.overtaken greater
      · simp only [outranks, greater, decide_false, Bool.false_eq_true, if_false]
        exact leads.foremost.kept (Int.not_lt.mp greater)

theorem Settled.isSome_iff
    {contenders : List Registration} {incumbent : Option Registration}
    (settled : Settled contenders incumbent) :
    incumbent.isSome ↔ contenders ≠ [] := by
  cases incumbent with
  | none =>
      have noContenders : contenders = [] := settled
      simp [noContenders]
  | some leader =>
      have leads : Leads contenders leader := settled
      simp [List.ne_nil_of_mem leads.foremost.mem]

/-- What is settled is the converter of the leader. -/
theorem Settled.map_converter_eq_some_iff
    {contenders : List Registration} {incumbent : Option Registration} {converter : Converter}
    (settled : Settled contenders incumbent) :
    incumbent.map Registration.converter = some converter ↔
      ∃ leader, Leads contenders leader ∧ leader.converter = converter := by
  rw [Option.map_eq_some_iff]
  constructor
  · intro kept
    obtain ⟨leader, rfl, carries⟩ := kept
    exact ⟨leader, settled, carries⟩
  · intro led
    obtain ⟨leader, leads, carries⟩ := led
    cases incumbent with
    | none =>
        have noContenders : contenders = [] := settled
        have impossible := leads.foremost.mem
        rw [noContenders] at impossible
        exact absurd impossible List.not_mem_nil
    | some incumbent =>
        exact ⟨incumbent, rfl, by rw [← carries, leads.foremost.unique (Leads.foremost settled)]⟩

theorem registration?_register_self
    (registry : Registry) (target : ValueType) (newcomer : Registration) :
    (registry.register target newcomer).registration? target =
      if outranks newcomer.priority (registry.registration? target) then some newcomer
      else registry.registration? target := by
  rw [register]
  split
  · exact Entries.find?_insert_self _ _ _
  · rfl

theorem registration?_register_of_ne
    {type target : ValueType} (different : type ≠ target) (registry : Registry)
    (newcomer : Registration) :
    (registry.register target newcomer).registration? type = registry.registration? type := by
  rw [register]
  split
  · exact Entries.find?_insert_of_ne different _ _
  · rfl

theorem empty_reflects : Reflects empty [] := by
  intro target
  rfl

/-- One registration: its own type is settled anew, and all others stay as they were. -/
theorem Reflects.register
    {registry : Registry} {candidates : List (ValueType × Registration)}
    (reflects : Reflects registry candidates) (target : ValueType) (newcomer : Registration) :
    Reflects (registry.register target newcomer) (candidates ++ [(target, newcomer)]) := by
  intro type
  by_cases same : type = target
  · rw [same, registration?_register_self, contenders_append_self]
    exact (reflects target).next newcomer
  · rw [registration?_register_of_ne same, contenders_append_of_ne same]
    exact reflects type

/-- Any number of registrations. By induction on them, with the earlier ones as the part of the
candidates that is settled already. -/
theorem Reflects.registerEach
    {registry : Registry} {earlier : List (ValueType × Registration)}
    (reflects : Reflects registry earlier) (candidates : List (ValueType × Registration)) :
    Reflects (registry.registerEach candidates) (earlier ++ candidates) := by
  induction candidates generalizing registry earlier with
  | nil =>
      rw [List.append_nil]
      exact reflects
  | cons candidate rest inductionHypothesis =>
      have settled := inductionHypothesis (reflects.register candidate.1 candidate.2)
      rw [List.append_assoc] at settled
      exact settled

theorem find?_finish (registry : Registry) (type : ValueType) :
    Entries.find? type registry.finish =
      (registry.registration? type).map Registration.converter := by
  rw [finish, registration?]
  induction registry.entries with
  | nil => rfl
  | cons entry rest inductionHypothesis =>
      rw [List.map_cons, Entries.find?, Entries.find?, inductionHypothesis]
      split <;> rfl

end Registry

namespace Builder

open Registry

/-! ## Competition in a build -/

/-- The converters that a build discovers, as it asks for them. -/
def discoveredConverters (builder : Builder) (installed : Registrations) (world : World) :
    List Converter :=
  if builder.withDiscoveredConverters then
    (builder.discovery.catalog installed world builder.context).converters
  else []

theorem completeRegistry_eq_ok_iff
    {builder : Builder} {installed : Registrations} {world : World} {registry : Registry} :
    builder.completeRegistry installed world = .ok registry ↔
      (∀ converter ∈ builder.discoveredConverters installed world,
        ∃ target, converter.targetType = .ok target) ∧
        registry = builder.converters.registerEach
          ((builder.discoveredConverters installed world).filterMap inferred?) := by
  rw [completeRegistry, discoveredConverters]
  cases builder.withDiscoveredConverters with
  | true =>
      exact registerAll_eq_ok_iff
  | false =>
      simp [Registry.registerEach, eq_comm]

/-- All registrations of a run: those of its calls in their order, then those of the converters
that the build discovers. -/
def registrations (early : World) (installed : Registrations) (world : World)
    (calls : List Call) : List (ValueType × Registration) :=
  calls.flatMap Call.candidates ++
    (((Builder.new early).staged calls).discoveredConverters installed world).filterMap inferred?

/-- However the calls were ordered, a successful build has for each type the converter of the
leader among all registrations for it, and none if there are no such registrations. No converter
was left out of them for want of a type. -/
theorem build_keeps_leading_converters
    {early world : World} {installed : Registrations} {counters : Counters}
    {calls : List Call} {builder : Builder} {config : Config}
    (made : (Builder.new early).callAll calls = .ok builder)
    (built : (builder.build installed world counters).result = .ok config) :
    (∀ call ∈ calls, call.Resolved) ∧
      (∀ converter ∈ ((Builder.new early).staged calls).discoveredConverters installed world,
        ∃ target, converter.targetType = .ok target) ∧
        ∀ target,
          ((config.converter? target).isSome ↔
            ∃ registration,
              (target, registration) ∈ registrations early installed world calls) ∧
            ∀ converter,
              config.converter? target = some converter ↔
                ∃ leader,
                  Leads (contenders target (registrations early installed world calls)) leader ∧
                    leader.converter = converter := by
  obtain ⟨resolved, rfl⟩ := callAll_eq_ok_iff.mp made
  obtain ⟨sources, registry, _, completed, rfl⟩ := build_result_eq_ok_iff.mp built
  obtain ⟨discoveredResolved, complete⟩ := completeRegistry_eq_ok_iff.mp completed
  have reflects : Reflects registry (registrations early installed world calls) := by
    rw [complete]
    exact (empty_reflects.registerEach _).registerEach _
  have found (target : ValueType) :
      Config.converter? ⟨rank (readOrdinals world counters sources).1, registry.finish⟩ target =
        (registry.registration? target).map Registration.converter :=
    find?_finish registry target
  refine ⟨resolved, discoveredResolved, ?_⟩
  intro target
  rw [found, Option.isSome_map]
  exact ⟨(reflects target).isSome_iff.trans contenders_ne_nil_iff,
    fun converter => (reflects target).map_converter_eq_some_iff⟩

/-- Registrations by hand, by declaration and by discovery, with a tie, a priority further up that
does not count, and a type that only discovery registers. -/
theorem build_keeps_leading_converters_contested :
    let world : World := ⟨⟨"<cwd>", []⟩, .empty, .empty⟩
    let typed (name : String) (priority : Option Int) (target : ValueType) : Converter :=
      .raw name priority (some [target]) fun _ => .error (.noSuchProperty name)
    let catalog : Catalog :=
      ⟨[], [], [typed "late" (some 200) (.scalar .truth), typed "found" none (.scalar .char)]⟩
    let calls : List Call :=
      [.includeDiscoveredConverters, .addConverters [typed "early" none (.scalar .truth)],
        .addConverter (.scalar .truth) 200 "given" fun text => .error (.noSuchProperty text),
        .inContext .empty,
        .addConverters [.derived "outer" none (typed "inner" (some 900) (.scalar .truth))],
        .discoverIn (.listed catalog)]
    ∃ config,
      (Builder.new world).callAll calls = .ok ((Builder.new world).staged calls) ∧
        (((Builder.new world).staged calls).build .empty world .empty).result = .ok config ∧
          (∀ call ∈ calls, call.Resolved) ∧
            (∀ converter ∈ ((Builder.new world).staged calls).discoveredConverters .empty world,
              ∃ target, converter.targetType = .ok target) ∧
              ∀ target,
                ((config.converter? target).isSome ↔
                  ∃ registration,
                    (target, registration) ∈ registrations world .empty world calls) ∧
                  ∀ converter,
                    config.converter? target = some converter ↔
                      ∃ leader,
                        Leads (contenders target (registrations world .empty world calls)) leader ∧
                          leader.converter = converter := by
  intro world typed catalog calls
  have made : (Builder.new world).callAll calls = .ok ((Builder.new world).staged calls) := rfl
  have succeeds : ∃ config,
      (((Builder.new world).staged calls).build .empty world .empty).result = .ok config :=
    ⟨_, rfl⟩
  obtain ⟨config, built⟩ := succeeds
  exact ⟨config, made, built, build_keeps_leading_converters made built⟩

end Builder

end LayeredConfig
