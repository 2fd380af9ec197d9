import LayeredConfig.Proofs.Competition
import LayeredConfig.Proofs.TypedLookups

/-!
# Soundness of inferred types

A registry forgets what its converters convert to. What it is told of a converter is the type
that the lineage declares, or the type that a call gives by hand. If every converter is a typed
one at the end of its lineage, that is the type of the values which come out of it, so a value
that is looked up as a type is what the winning converter has made of the raw text.
-/

namespace LayeredConfig

/-- A typed converter, or any number of derived ones over it, wraps a conversion to one type. -/
inductive Converter.Wraps :
    Converter → (target : ValueType) → (String → Except Failure target.Value) → Prop
  | typed (name : String) (priority : Option Int) (target : ValueType)
      (conversion : String → Except Failure target.Value) :
      Wraps (.typed name priority target conversion) target conversion
  | derived (name : String) (priority : Option Int) {base : Converter} {target : ValueType}
      {conversion : String → Except Failure target.Value} :
      Wraps base target conversion → Wraps (.derived name priority base) target conversion

section Wrapping

variable {converter : Converter} {target : ValueType}
  {conversion : String → Except Failure target.Value}

theorem Converter.Wraps.targetType
    (wraps : converter.Wraps target conversion) :
    converter.targetType = .ok target := by
  have declared : converter.declaredType? = .ok (some target) := by
    induction wraps with
    | typed name priority target conversion =>
        rfl
    | derived name priority _ inductionHypothesis =>
        exact inductionHypothesis
  rw [Converter.targetType, declared]
  rfl

theorem Converter.Wraps.convert
    (wraps : converter.Wraps target conversion) (raw : String) :
    converter.convert raw = (conversion raw).map (TypedValue.mk target) := by
  induction wraps with
  | typed name priority target conversion =>
      rfl
  | derived name priority _ inductionHypothesis =>
      exact inductionHypothesis

/-- A registered converter that wraps a conversion to its type adds nothing but the key. -/
theorem Config.convert_of_wraps
    {config : Config} (registered : config.converter? target = some converter)
    (wraps : converter.Wraps target conversion) (key raw : String) :
    config.convert target key raw = (conversion raw).mapError (Failure.forKey key) := by
  have converted := wraps.convert raw
  cases made : conversion raw with
  | error failure =>
      rw [made] at converted
      exact Config.convert_of_error registered converted
  | ok value =>
      rw [made] at converted
      exact Config.convert_of_typed registered converted

end Wrapping

/-- Without a converter a lookup fails for want of it, or it gives the raw text. -/
theorem Config.convert_ne_differentType
    {config : Config} {target : ValueType} (unregistered : config.converter? target = none)
    (key raw : String) :
    config.convert target key raw ≠ .error (Config.differentType target key) := by
  by_cases isText : target = textType
  · subst isText
    rw [Config.convert_of_untouched unregistered]
    exact nofun
  · rw [Config.convert_of_missing unregistered isText]
    exact nofun

namespace Builder

open Registry Traversal

/-- Every converter that a call registers for its own type wraps a conversion. A conversion that
is given with its type is wrapped by the call itself. -/
def Call.Wrapping : Call → Prop
  | .addConverters converters =>
    ∀ converter ∈ converters, ∃ target conversion, converter.Wraps target conversion
  | _ => True

theorem wraps_of_inferred
    {converters : List Converter} {target : ValueType} {registration : Registration}
    (wrapping : ∀ converter ∈ converters, ∃ target conversion, converter.Wraps target conversion)
    (inferred : (target, registration) ∈ converters.filterMap inferred?) :
    ∃ conversion, registration.converter.Wraps target conversion := by
  obtain ⟨converter, member, candidate⟩ := List.mem_filterMap.mp inferred
  obtain ⟨own, conversion, wraps⟩ := wrapping converter member
  rw [inferred?, wraps.targetType] at candidate
  obtain ⟨rfl, rfl⟩ := Prod.mk.inj (Option.some.inj candidate)
  exact ⟨conversion, wraps⟩

theorem Call.Wrapping.wraps
    {call : Call} (wrapping : call.Wrapping) {target : ValueType} {registration : Registration}
    (candidate : (target, registration) ∈ call.candidates) :
    ∃ conversion, registration.converter.Wraps target conversion := by
  cases call with
  | addConverters converters =>
      exact wraps_of_inferred wrapping candidate
  | addConverter given priority name conversion =>
      obtain ⟨rfl, rfl⟩ := Prod.mk.inj (List.mem_singleton.mp candidate)
      exact ⟨conversion, .typed name none _ conversion⟩
  | _ =>
      exact absurd candidate List.not_mem_nil

/-- By whichever way a converter comes to a registry, it is registered for the type of the
conversion that it wraps. -/
theorem registrations_wrap
    {early world : World} {installed : Registrations} {calls : List Call}
    (wrapping : ∀ call ∈ calls, call.Wrapping)
    (discovered :
      ∀ converter ∈ ((Builder.new early).staged calls).discoveredConverters installed world,
        ∃ target conversion, converter.Wraps target conversion)
    {target : ValueType} {registration : Registration}
    (registered : (target, registration) ∈ registrations early installed world calls) :
    ∃ conversion, registration.converter.Wraps target conversion := by
  rcases List.mem_append.mp registered with called | found
  · obtain ⟨call, member, candidate⟩ := List.mem_flatMap.mp called
    exact (wrapping call member).wraps candidate
  · exact wraps_of_inferred discovered found

/-! ## Lookups in a configuration -/

/-- A key looked up as a type gives what the wrapped conversion of a converter makes of its raw
value, with the key filled into a rejection. -/
def LooksUpWith
    (config : Config) (target : ValueType)
    (conversion : String → Except Failure target.Value) : Prop :=
  ∀ now key,
    (config.rawValue? now key = none →
      config.optionalValue now target key = .ok none ∧
        config.value now target key = .error (.noSuchProperty key)) ∧
      ∀ raw, config.rawValue? now key = some raw →
        config.optionalValue now target key =
            ((conversion raw).map some).mapError (Failure.forKey key) ∧
          config.value now target key = (conversion raw).mapError (Failure.forKey key)

theorem looksUpWith_of_wraps
    {config : Config} {target : ValueType} {converter : Converter}
    {conversion : String → Except Failure target.Value}
    (registered : config.converter? target = some converter)
    (wraps : converter.Wraps target conversion) :
    LooksUpWith config target conversion := by
  intro now key
  constructor
  · intro undefined
    exact ⟨Config.optionalValue_of_undefined undefined, Config.value_of_undefined undefined⟩
  · intro raw defined
    rw [Config.optionalValue_of_defined defined, Config.value_of_defined defined,
      Config.convert_of_wraps registered wraps]
    refine ⟨?_, rfl⟩
    cases conversion raw <;> rfl

/-- The failure that tells of another type is none of the configuration's own: a wrapped
conversion has failed with it. -/
def OnlyForwardsDifferentType (config : Config) (target : ValueType) : Prop :=
  ∀ now key,
    config.optionalValue now target key = .error (Config.differentType target key) ∨
        config.value now target key = .error (Config.differentType target key) →
      ∃ converter conversion raw failure,
        config.converter? target = some converter ∧
          converter.Wraps target conversion ∧
            config.rawValue? now key = some raw ∧
              conversion raw = .error failure ∧
                failure.forKey key = Config.differentType target key

theorem onlyForwardsDifferentType_of_wraps
    {config : Config} {target : ValueType} {converter : Converter}
    {conversion : String → Except Failure target.Value}
    (registered : config.converter? target = some converter)
    (wraps : converter.Wraps target conversion) :
    OnlyForwardsDifferentType config target := by
  intro now key failed
  obtain ⟨undefined, defined⟩ := looksUpWith_of_wraps registered wraps now key
  cases found : config.rawValue? now key with
  | none =>
      obtain ⟨optional, single⟩ := undefined found
      rw [optional, single] at failed
      rcases failed with impossible | impossible
      · cases impossible
      · cases impossible
  | some raw =>
      obtain ⟨optional, single⟩ := defined raw found
      rw [optional, single] at failed
      cases converted : conversion raw with
      | ok value =>
          rw [converted] at failed
          rcases failed with impossible | impossible
          · cases impossible
          · cases impossible
      | error failure =>
          rw [converted] at failed
          have told : failure.forKey key = Config.differentType target key := by
            rcases failed with told | told
            · exact Except.error.inj told
            · exact Except.error.inj told
          exact ⟨converter, conversion, raw, failure, registered, wraps, rfl, converted, told⟩

theorem onlyForwardsDifferentType_of_unregistered
    {config : Config} {target : ValueType} (unregistered : config.converter? target = none) :
    OnlyForwardsDifferentType config target := by
  intro now key failed
  cases found : config.rawValue? now key with
  | none =>
      rw [Config.optionalValue_of_undefined found, Config.value_of_undefined found] at failed
      rcases failed with impossible | impossible
      · cases impossible
      · cases impossible
  | some raw =>
      have other := Config.convert_ne_differentType unregistered key raw
      rw [Config.optionalValue_of_defined found, Config.value_of_defined found] at failed
      rcases failed with told | told
      · cases converted : config.convert target key raw with
        | ok value =>
            rw [converted] at told
            cases told
        | error failure =>
            rw [converted] at told other
            exact absurd (congrArg Except.error (Except.error.inj told)) other
      · exact absurd told other

/-- In a run that registers and discovers nothing but wrapped conversions, a type with
registrations has the converter of their leader, and a lookup gives what the conversion wrapped
in it makes of the raw value. No value of another type comes out of any converter, so that no
lookup fails for that. -/
theorem build_converts_with_leader
    {early world : World} {installed : Registrations} {counters : Counters}
    {calls : List Call} {builder : Builder} {config : Config}
    (made : (Builder.new early).callAll calls = .ok builder)
    (wrapping : ∀ call ∈ calls, call.Wrapping)
    (discovered : ∀ converter ∈ builder.discoveredConverters installed world,
      ∃ target conversion, converter.Wraps target conversion)
    (built : (builder.build installed world counters).result = .ok config) :
    ∀ target,
      ((∃ registration, (target, registration) ∈ registrations early installed world calls) →
          ∃ leader conversion,
            Leads (contenders target (registrations early installed world calls)) leader ∧
              config.converter? target = some leader.converter ∧
                leader.converter.Wraps target conversion ∧
                  LooksUpWith config target conversion) ∧
        (∀ converter, config.converter? target = some converter →
          ∀ raw typed, converter.convert raw = .ok typed → typed.type = target) ∧
          OnlyForwardsDifferentType config target := by
  obtain ⟨_, rfl⟩ := callAll_eq_ok_iff.mp made
  obtain ⟨sources, registry, _, completed, rfl⟩ := build_result_eq_ok_iff.mp built
  obtain ⟨_, complete⟩ := completeRegistry_eq_ok_iff.mp completed
  have reflects : Reflects registry (registrations early installed world calls) := by
    rw [complete]
    exact (empty_reflects.registerEach _).registerEach _
  intro target
  have found :
      Config.converter? ⟨rank (readOrdinals world counters sources).1, registry.finish⟩ target =
        (registry.registration? target).map Registration.converter :=
    find?_finish registry target
  have settled := reflects target
  cases kept : registry.registration? target with
  | none =>
      rw [kept] at found settled
      have nobody : contenders target (registrations early installed world calls) = [] := settled
      refine ⟨?_, ?_, onlyForwardsDifferentType_of_unregistered found⟩
      · intro registered
        exact absurd nobody (contenders_ne_nil_iff.mpr registered)
      · intro converter present
        rw [found] at present
        cases present
  | some leader =>
      rw [kept] at found settled
      have leads : Leads (contenders target (registrations early installed world calls)) leader :=
        settled
      obtain ⟨conversion, wraps⟩ :=
        registrations_wrap wrapping discovered (mem_contenders.mp leads.foremost.mem)
      refine ⟨?_, ?_, onlyForwardsDifferentType_of_wraps found wraps⟩
      · intro _
        exact ⟨leader, conversion, leads, found, wraps, looksUpWith_of_wraps found wraps⟩
      · intro converter present raw typed converted
        rw [found] at present
        rw [← Option.some.inj present, wraps.convert] at converted
        obtain ⟨value, _, rfl⟩ := map_eq_ok_iff.mp converted
        rfl

/-- Conversions that are registered by hand, by declaration through two levels, and by
discovery, for a type that all of them convert to and for one that only discovery converts to. -/
theorem build_converts_with_leader_derived :
    let world : World := ⟨⟨"<cwd>", []⟩, .empty, .empty⟩
    let truth : ValueType := .scalar .truth
    let letter : ValueType := .scalar .char
    let toTruth (value : Bool) : String → Except Failure truth.Value := fun _ => .ok value
    let toLetter : String → Except Failure letter.Value := fun raw => .error (.rejected raw)
    let inner : Converter := .typed "inner" none truth (toTruth true)
    let outer : Converter := .derived "outer" (some 200) (.derived "middle" none inner)
    let found : Converter := .derived "found" none (.typed "letters" none letter toLetter)
    let catalog : Catalog := ⟨[], [], [found, inner]⟩
    let calls : List Call :=
      [.includeDiscoveredConverters, .addConverter truth 150 "given" (toTruth false),
        .addConverters [outer],
        .addSources [.plain "plain" ⟨[("debug", "yes")], by decide⟩],
        .discoverIn (.listed catalog)]
    let builder := (Builder.new world).staged calls
    (Builder.new world).callAll calls = .ok builder ∧
      (∀ call ∈ calls, call.Wrapping) ∧
        (∀ converter ∈ builder.discoveredConverters .empty world,
            ∃ target conversion, converter.Wraps target conversion) ∧
          ∃ config,
            (builder.build .empty world .empty).result = .ok config ∧
              ∀ target,
                ((∃ registration,
                      (target, registration) ∈ registrations world .empty world calls) →
                    ∃ leader conversion,
                      Leads (contenders target (registrations world .empty world calls)) leader ∧
                        config.converter? target = some leader.converter ∧
                          leader.converter.Wraps target conversion ∧
                            LooksUpWith config target conversion) ∧
                  (∀ converter, config.converter? target = some converter →
                    ∀ raw typed, converter.convert raw = .ok typed → typed.type = target) ∧
                    OnlyForwardsDifferentType config target := by
  intro world truth letter toTruth toLetter inner outer found catalog calls builder
  have made : (Builder.new world).callAll calls = .ok builder := rfl
  have innerWraps : inner.Wraps truth (toTruth true) := .typed _ _ _ _
  have outerWraps : outer.Wraps truth (toTruth true) := .derived _ _ (.derived _ _ innerWraps)
  have foundWraps : found.Wraps letter toLetter := .derived _ _ (.typed _ _ _ _)
  have wrapping : ∀ call ∈ calls, call.Wrapping := by
    simp only [calls, List.forall_mem_cons]
    refine ⟨trivial, trivial, ?_, trivial, trivial, nofun⟩
    intro converter member
    rw [List.mem_singleton.mp member]
    exact ⟨_, _, outerWraps⟩
  have discovered : ∀ converter ∈ builder.discoveredConverters .empty world,
      ∃ target conversion, converter.Wraps target conversion := by
    intro converter member
    have listed : converter ∈ [found, inner] := member
    simp only [List.mem_cons, List.not_mem_nil, or_false] at listed
    rcases listed with rfl | rfl
    · exact ⟨_, _, foundWraps⟩
    · exact ⟨_, _, innerWraps⟩
  have built : (builder.build .empty world .empty).result = .ok _ := rfl
  exact ⟨made, wrapping, discovered, _, built,
    build_converts_with_leader made wrapping discovered built⟩

end Builder

end LayeredConfig
