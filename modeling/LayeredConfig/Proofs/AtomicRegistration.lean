import LayeredConfig.Proofs.Lineages

/-!
When converters are registered for the types they declare, all types are found before the
registry changes for the first time. So it ends as it does when the converters are registered one
after the other; or one of them has no type, and it ends as it began.
-/

namespace LayeredConfig.Registry

open Traversal

variable {registry after : Registry} {converters : List Converter} {failure : Failure}

/-- A registry becomes another one while converters are registered one after the other, each for
the type it declares and with the priority that it carries itself, or 100 if it carries none. -/
inductive OneByOne : Registry → List Converter → Registry → Prop
  | done (registry : Registry) : OneByOne registry [] registry
  | next {registry after : Registry} {converter : Converter} {target : ValueType}
      {rest : List Converter} :
      converter.targetType = .ok target →
      OneByOne (registry.register target ⟨converter.priority.getD 100, converter⟩) rest after →
      OneByOne registry (converter :: rest) after

theorem oneByOne_iff :
    OneByOne registry converters after ↔
      (∀ converter ∈ converters, ∃ target, converter.targetType = .ok target) ∧
        after = registry.registerEach (converters.filterMap Builder.inferred?) := by
  induction converters generalizing registry with
  | nil =>
      constructor
      · intro registered
        cases registered with
        | done => exact ⟨by simp, rfl⟩
      · intro complete
        rw [complete.2]
        exact .done registry
  | cons converter rest inductionHypothesis =>
      rw [List.forall_mem_cons]
      constructor
      · intro registered
        cases registered with
        | next declared others =>
            obtain ⟨resolved, rfl⟩ := inductionHypothesis.mp others
            refine ⟨⟨⟨_, declared⟩, resolved⟩, ?_⟩
            rw [List.filterMap_cons_some (Builder.inferred?_of_targetType declared)]
            rfl
      · intro complete
        obtain ⟨⟨⟨target, declared⟩, resolved⟩, final⟩ := complete
        rw [List.filterMap_cons_some (Builder.inferred?_of_targetType declared)] at final
        exact .next declared (inductionHypothesis.mpr ⟨resolved, final⟩)

theorem runOn_eq_ok_iff :
    (registerDeclared converters).runOn registry = (.ok (), after) ↔
      registry.registerAll converters = .ok after := by
  rw [runOn_registerDeclared, registerAll_eq]
  cases converters.mapM Converter.candidate with
  | error failure => simp [Except.map]
  | ok candidates => simp [Except.map]

theorem runOn_eq_error_iff :
    (registerDeclared converters).runOn registry = (.error failure, after) ↔
      after = registry ∧ registry.registerAll converters = .error failure := by
  rw [runOn_registerDeclared, registerAll_eq]
  cases converters.mapM Converter.candidate with
  | error other => simp [Except.map, eq_comm, and_comm]
  | ok candidates => simp [Except.map]

theorem registerAll_failsFirst (registry : Registry) (converters : List Converter) :
    FailsFirst (registry.registerAll converters) (converters.filterMap Converter.typeFailure?) := by
  have fails := failsFirst_mapM_filterMap Converter.candidate converters
  simp only [Converter.candidate, failure?_map, Converter.failure?_targetType] at fails
  rw [registerAll_eq]
  exact fails.map registry.registerEach

theorem typeFailure?_eq_none_iff {converter : Converter} :
    converter.typeFailure? = none ↔ ∃ target, converter.targetType = .ok target := by
  rw [← Converter.failure?_targetType]
  exact failure?_eq_none_iff

theorem typeFailure?_eq_some_iff {converter : Converter} :
    converter.typeFailure? = some failure ↔ converter.targetType = .error failure := by
  rw [← Converter.failure?_targetType]
  exact failure?_eq_some_iff

/-- Converters are not registered exactly if one of them has no type, and the first such one
counts. -/
theorem registerAll_eq_error_iff :
    registry.registerAll converters = .error failure ↔
      ∃ earlier converter later,
        converters = earlier ++ converter :: later ∧
          (∀ other ∈ earlier, ∃ target, other.targetType = .ok target) ∧
            converter.targetType = .error failure := by
  rw [(registerAll_failsFirst registry converters).eq_error_iff, List.head?_filterMap,
    List.findSome?_eq_some_iff]
  simp only [typeFailure?_eq_none_iff, typeFailure?_eq_some_iff]
  constructor
  · intro found
    obtain ⟨earlier, converter, later, split, fails, resolved⟩ := found
    exact ⟨earlier, converter, later, split, resolved, fails⟩
  · intro found
    obtain ⟨earlier, converter, later, split, resolved, fails⟩ := found
    exact ⟨earlier, converter, later, split, fails, resolved⟩

/-- Either all converters have types, and the registry ends as it does when they are registered
one after the other; or some have none, and the registry ends as it began, with the failure of
the first of those, wherever the others stand. -/
theorem registerDeclared_is_atomic (registry : Registry) (converters : List Converter) :
    ((∀ converter ∈ converters, ∃ target, converter.targetType = .ok target) →
        ∃ after, OneByOne registry converters after) ∧
      (∀ after,
        (registerDeclared converters).runOn registry = (.ok (), after) ↔
          OneByOne registry converters after) ∧
        ∀ failure after,
          (registerDeclared converters).runOn registry = (.error failure, after) ↔
            after = registry ∧
              ∃ earlier converter later,
                converters = earlier ++ converter :: later ∧
                  (∀ other ∈ earlier, ∃ target, other.targetType = .ok target) ∧
                    converter.targetType = .error failure := by
  refine ⟨?_, ?_, ?_⟩
  · intro resolved
    exact ⟨_, oneByOne_iff.mpr ⟨resolved, rfl⟩⟩
  · intro after
    rw [runOn_eq_ok_iff, Builder.registerAll_eq_ok_iff, oneByOne_iff]
  · intro failure after
    rw [runOn_eq_error_iff, registerAll_eq_error_iff]

end LayeredConfig.Registry
