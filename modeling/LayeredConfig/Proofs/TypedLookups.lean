import LayeredConfig.Config.Basic

/-!
A lookup first finds the raw value of a key and then makes something of it. What it makes is
read off the converter of the wanted type, and nothing but the raw value goes into it: no
rejection, and no value of another type, sends the lookup on to the sources further down. So a
lookup that may do without a value does so for an undefined key only.
-/

namespace LayeredConfig

/-- Every failure but a rejection that names no property stays as it is. -/
theorem Failure.forKey_of_ne {failure : Failure}
    (named : ∀ reason, failure ≠ .conversion "" reason) (key : String) :
    failure.forKey key = failure := by
  unfold Failure.forKey
  split
  · rename_i reason
    exact absurd rfl (named reason)
  · rfl

namespace Config

variable {config : Config} {world : World} {target : ValueType} {key raw : String}

theorem optionalValue_of_undefined (undefined : config.rawValue? world key = none) :
    config.optionalValue world target key = .ok none := by
  rw [optionalValue, undefined]

theorem value_of_undefined (undefined : config.rawValue? world key = none) :
    config.value world target key = .error (.noSuchProperty key) := by
  rw [value, optionalValue_of_undefined undefined]
  rfl

theorem optionalValue_of_defined (defined : config.rawValue? world key = some raw) :
    config.optionalValue world target key = (config.convert target key raw).map some := by
  rw [optionalValue, defined]

theorem value_of_defined (defined : config.rawValue? world key = some raw) :
    config.value world target key = config.convert target key raw := by
  rw [value, optionalValue_of_defined defined]
  cases config.convert target key raw <;> rfl

/-- Only a key without a raw value has no value, whatever its converter fails with. -/
theorem optionalValue_eq_ok_none_iff :
    config.optionalValue world target key = .ok none ↔ config.rawValue? world key = none := by
  constructor
  · intro absent
    cases defined : config.rawValue? world key with
    | none => rfl
    | some raw =>
        rw [optionalValue_of_defined defined] at absent
        cases converted : config.convert target key raw with
        | ok value =>
            rw [converted] at absent
            cases absent
        | error failure =>
            rw [converted] at absent
            cases absent
  · exact optionalValue_of_undefined

/-- Sources below the first one that answers have no part in the raw value. -/
theorem rawValue?_of_first {before below : List Source} {winner : Source}
    {registered : List (ValueType × Converter)}
    (silent : ∀ source ∈ before, source.value? world key = none)
    (answers : winner.value? world key = some raw) :
    rawValue? ⟨before ++ winner :: below, registered⟩ world key = some raw := by
  have nothing : before.findSome? (fun source => source.value? world key) = none :=
    List.findSome?_eq_none_iff.mpr silent
  rw [rawValue?, List.findSome?_append, nothing, Option.none_or, List.findSome?_cons, answers]

/-- What becomes of a raw value that is wanted as a type, by the converter of that type and by
what it makes of the raw value. -/
inductive Yields (config : Config) (key raw : String) :
    (target : ValueType) → Except Failure target.Value → Prop
  | converted {target : ValueType} {converter : Converter} {value : target.Value} :
      config.converter? target = some converter →
      converter.convert raw = .ok ⟨target, value⟩ →
      Yields config key raw target (.ok value)
  | mistyped {target : ValueType} {converter : Converter} {typed : TypedValue} :
      config.converter? target = some converter →
      converter.convert raw = .ok typed →
      typed.type ≠ target →
      Yields config key raw target
        (.error (.conversion key
          ("converter registered for " ++ target.name ++ " produced a different type")))
  | rejected {target : ValueType} {converter : Converter} {reason : String} :
      config.converter? target = some converter →
      converter.convert raw = .error (.conversion "" reason) →
      Yields config key raw target (.error (.conversion key reason))
  | failed {target : ValueType} {converter : Converter} {failure : Failure} :
      config.converter? target = some converter →
      converter.convert raw = .error failure →
      (∀ reason, failure ≠ .conversion "" reason) →
      Yields config key raw target (.error failure)
  | untouched :
      config.converter? textType = none →
      Yields config key raw textType (.ok raw)
  | missing {target : ValueType} :
      config.converter? target = none →
      target ≠ textType →
      Yields config key raw target (.error (.missingConverter target.name))

theorem convert_of_typed {converter : Converter} {value : target.Value}
    (registered : config.converter? target = some converter)
    (converted : converter.convert raw = .ok ⟨target, value⟩) :
    config.convert target key raw = .ok value := by
  have kept : (converter.convert raw).mapError (Failure.forKey key) = .ok ⟨target, value⟩ := by
    rw [converted]
    rfl
  rw [convert, registered]
  simp only [kept, Bind.bind, Except.bind, TypedValue.cast?_mk]
  rfl

theorem convert_of_mistyped {converter : Converter} {typed : TypedValue}
    (registered : config.converter? target = some converter)
    (converted : converter.convert raw = .ok typed) (otherType : typed.type ≠ target) :
    config.convert target key raw = .error (differentType target key) := by
  have kept : (converter.convert raw).mapError (Failure.forKey key) = .ok typed := by
    rw [converted]
    rfl
  rw [convert, registered]
  simp only [kept, Bind.bind, Except.bind, TypedValue.cast?_of_ne otherType]
  rfl

theorem convert_of_error {converter : Converter} {failure : Failure}
    (registered : config.converter? target = some converter)
    (converted : converter.convert raw = .error failure) :
    config.convert target key raw = .error (failure.forKey key) := by
  rw [convert, registered]
  simp only [converted]
  rfl

theorem convert_of_untouched (unregistered : config.converter? textType = none) :
    config.convert textType key raw = .ok raw := by
  rw [convert, unregistered]
  rfl

theorem convert_of_missing (unregistered : config.converter? target = none)
    (otherType : target ≠ textType) :
    config.convert target key raw = .error (.missingConverter target.name) := by
  have noText : (TypedValue.mk textType raw).cast? target = none :=
    TypedValue.cast?_of_ne otherType.symm
  rw [convert, unregistered]
  simp only [noText]

/-- A raw value yields what a lookup makes of it. The cases are those of the converter: none, or
one that succeeds with a value of the type or of another one, or one that fails. -/
theorem yields_convert : config.Yields key raw target (config.convert target key raw) := by
  cases registered : config.converter? target with
  | none =>
      by_cases isText : target = textType
      · subst isText
        rw [convert_of_untouched registered]
        exact .untouched registered
      · rw [convert_of_missing registered isText]
        exact .missing registered isText
  | some converter =>
      cases converted : converter.convert raw with
      | ok typed =>
          by_cases sameType : typed.type = target
          · obtain ⟨type, value⟩ := typed
            have isTarget : type = target := sameType
            subst isTarget
            rw [convert_of_typed registered converted]
            exact .converted registered converted
          · rw [convert_of_mistyped registered converted sameType]
            exact .mistyped registered converted sameType
      | error failure =>
          rw [convert_of_error registered converted]
          by_cases unnamed : ∃ reason, failure = .conversion "" reason
          · obtain ⟨reason, rfl⟩ := unnamed
            exact .rejected registered converted
          · have named : ∀ reason, failure ≠ .conversion "" reason := not_exists.mp unnamed
            rw [Failure.forKey_of_ne named]
            exact .failed registered converted named

/-- A raw value yields nothing else. -/
theorem Yields.convert_eq {result : Except Failure target.Value}
    (yields : config.Yields key raw target result) :
    config.convert target key raw = result := by
  cases yields with
  | converted registered converted =>
      exact convert_of_typed registered converted
  | mistyped registered converted otherType =>
      exact convert_of_mistyped registered converted otherType
  | rejected registered converted =>
      exact convert_of_error registered converted
  | failed registered converted named =>
      rw [convert_of_error registered converted, Failure.forKey_of_ne named]
  | untouched unregistered =>
      exact convert_of_untouched unregistered
  | missing unregistered otherType =>
      exact convert_of_missing unregistered otherType

theorem yields_iff {result : Except Failure target.Value} :
    config.Yields key raw target result ↔ config.convert target key raw = result := by
  constructor
  · exact Yields.convert_eq
  · intro converted
    rw [← converted]
    exact yields_convert

/-- A lookup is decided by the raw value that wins. An undefined key has no value, whatever
converters there are, and it is the only key that an optional lookup finds without a value. A
defined key has what its raw value yields. Whatever that is, sources below the one that gives
the raw value have no part in it. -/
theorem lookup_decided_by_raw_value (config : Config) (world : World) (target : ValueType)
    (key : String) :
    (config.rawValue? world key = none →
        config.optionalValue world target key = .ok none ∧
          config.value world target key = .error (.noSuchProperty key)) ∧
      (∀ raw, config.rawValue? world key = some raw →
        (∀ result, config.value world target key = result ↔ config.Yields key raw target result) ∧
          config.optionalValue world target key =
            (config.value world target key).map some) ∧
        (config.optionalValue world target key = .ok none ↔
          config.rawValue? world key = none) ∧
          ∀ before winner below raw, config.sources = before ++ winner :: below →
            (∀ source ∈ before, source.value? world key = none) →
              winner.value? world key = some raw →
                config.rawValue? world key = some raw ∧
                  ∀ others,
                    let changed : Config := ⟨before ++ winner :: others, config.registered⟩
                    changed.value world target key = config.value world target key ∧
                      changed.optionalValue world target key =
                        config.optionalValue world target key := by
  refine ⟨?_, ?_, optionalValue_eq_ok_none_iff, ?_⟩
  · intro undefined
    exact ⟨optionalValue_of_undefined undefined, value_of_undefined undefined⟩
  · intro raw defined
    rw [optionalValue_of_defined defined, value_of_defined defined]
    exact ⟨fun result => yields_iff.symm, rfl⟩
  · intro before winner below raw split silent answers
    have first (others : List Source) :
        rawValue? ⟨before ++ winner :: others, config.registered⟩ world key = some raw :=
      rawValue?_of_first silent answers
    have defined : config.rawValue? world key = some raw := by
      have here := first below
      rwa [← split] at here
    refine ⟨defined, ?_⟩
    intro others changed
    rw [value_of_defined defined, value_of_defined (first others),
      optionalValue_of_defined defined, optionalValue_of_defined (first others)]
    exact ⟨rfl, rfl⟩

/-- The lower source has a value that the converter would take. -/
example :
    let truth : ValueType := .scalar .truth
    let strict : Converter :=
      .typed "strict" none truth fun raw =>
        if raw = "yes" then .ok true else .error (.rejected raw)
    let config : Config :=
      ⟨[.plain "high" ⟨[("debug", "maybe")], by decide⟩,
          .plain "low" ⟨[("debug", "yes")], by decide⟩],
        [(truth, strict)]⟩
    config.value ⟨⟨"<cwd>", []⟩, .empty, .empty⟩ truth "debug" =
      .error (.conversion "debug" "maybe") := rfl

end Config

end LayeredConfig
