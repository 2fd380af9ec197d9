import LayeredConfig.Proofs.Competition

/-!
A converter stands at the beginning of a lineage, followed by the converters that it extends. Its
type is what the first level of the lineage with a declaration declares, provided that it is one
type, and no level further up can make good for one that declares otherwise. Its priority is its
own, whatever the levels further up carry.
-/

namespace LayeredConfig

open Traversal

namespace Converter

/-- What the first level of the lineage with a declaration declares, with its name. -/
def declaration? (converter : Converter) : Option (String × List ValueType) :=
  converter.lineage.findSome? fun level => level.declared.map (level.name, ·)

/-- Why a converter has no type: no level declares one, or the first that declares something
does not declare one type. -/
def typeFailure? (converter : Converter) : Option Failure :=
  match converter.declaration? with
  | none => some (.unresolvedType converter.name)
  | some (_, [_]) => none
  | some (name, types) => some (.malformedType name types.length)

/-- What a declaration comes to. -/
private def declaredBy : Option (String × List ValueType) → Except Failure (Option ValueType)
  | none => .ok none
  | some (name, types) => typeOr name (some types) (.ok none)

private theorem declaredType?_eq (converter : Converter) :
    converter.declaredType? = declaredBy converter.declaration? := by
  induction converter with
  | typed name priority target convert => rfl
  | derived name priority base inductionHypothesis => exact inductionHypothesis
  | raw name priority declared convert => cases declared <;> rfl
  | extending name priority declared base convert inductionHypothesis =>
      cases declared with
      | none => exact inductionHypothesis
      | some types =>
          rcases types with _ | ⟨target, _ | ⟨second, rest⟩⟩ <;> rfl

/-- A declaration of one type gives the type, and every other failure is that of the level which
makes the declaration, or of the converter itself if there is none. -/
theorem targetType_eq (converter : Converter) :
    converter.targetType =
      match converter.declaration? with
      | none => .error (.unresolvedType converter.name)
      | some (_, [target]) => .ok target
      | some (name, types) => .error (.malformedType name types.length) := by
  rw [targetType, declaredType?_eq]
  cases converter.declaration? with
  | none => rfl
  | some declaration =>
      obtain ⟨name, types⟩ := declaration
      rcases types with _ | ⟨target, _ | ⟨second, rest⟩⟩ <;> rfl

theorem failure?_targetType (converter : Converter) :
    failure? converter.targetType = converter.typeFailure? := by
  rw [targetType_eq, typeFailure?]
  split <;> rfl

/-- The level is the first of the lineage that declares something, and it declares the types. -/
def DeclaresFirst (converter level : Converter) (types : List ValueType) : Prop :=
  ∃ nearer further,
    converter.lineage = nearer ++ level :: further ∧
      (∀ other ∈ nearer, other.declared = none) ∧ level.declared = some types

theorem DeclaresFirst.declaration? {converter level : Converter} {types : List ValueType}
    (first : converter.DeclaresFirst level types) :
    converter.declaration? = some (level.name, types) := by
  obtain ⟨nearer, further, split, silent, declares⟩ := first
  rw [Converter.declaration?, List.findSome?_eq_some_iff]
  refine ⟨nearer, level, further, split, by rw [declares]; rfl, ?_⟩
  intro other member
  rw [silent other member]
  rfl

theorem declaration?_of_silent {converter : Converter}
    (silent : ∀ level ∈ converter.lineage, level.declared = none) :
    converter.declaration? = none := by
  rw [Converter.declaration?, List.findSome?_eq_none_iff]
  intro level member
  rw [silent level member]
  rfl

theorem targetType_eq_ok_iff {converter : Converter} {target : ValueType} :
    converter.targetType = .ok target ↔
      ∃ name, converter.declaration? = some (name, [target]) := by
  rw [targetType_eq]
  constructor
  · intro found
    split at found
    · cases found
    · rename_i name declared declares
      obtain rfl := Except.ok.inj found
      exact ⟨name, declares⟩
    · cases found
  · intro declared
    obtain ⟨name, declares⟩ := declared
    rw [declares]

/-- A converter inside derived ones, each with its name and its marker, the outermost first. -/
def within (base : Converter) : List (String × Option Int) → Converter
  | [] => base
  | (name, marker) :: inner => .derived name marker (base.within inner)

/-- The marker of the outermost converter. -/
def outermostMarker (base : Converter) : List (String × Option Int) → Option Int
  | [] => base.priority
  | (_, marker) :: _ => marker

theorem priority_within (base : Converter) (links : List (String × Option Int)) :
    (base.within links).priority = base.outermostMarker links := by
  cases links <;> rfl

theorem convert_within (base : Converter) (links : List (String × Option Int)) (raw : String) :
    (base.within links).convert raw = base.convert raw := by
  induction links with
  | nil => rfl
  | cons link inner inductionHypothesis => exact inductionHypothesis

/-- Derived converters declare nothing, so the declaration is the one further up. -/
theorem declaration?_within (base : Converter) (links : List (String × Option Int)) :
    (base.within links).declaration? = base.declaration? := by
  induction links with
  | nil => rfl
  | cons link inner inductionHypothesis => exact inductionHypothesis

theorem targetType_within {base : Converter} {target : ValueType}
    (declared : base.targetType = .ok target) (links : List (String × Option Int)) :
    (base.within links).targetType = .ok target := by
  rw [targetType_eq_ok_iff] at declared ⊢
  rwa [base.declaration?_within]

end Converter

namespace Registry

/-- A converter competes for a type with a priority: registered for the type it declares, it
stands back behind an incumbent of the same priority or a greater one, takes the place of any
other, and leaves the other types alone. -/
def CompetesFor (registry : Registry) (target : ValueType) (converter : Converter)
    (priority : Int) : Prop :=
  ∃ after, registry.registerAll [converter] = .ok after ∧
    (∀ incumbent, registry.registration? target = some incumbent →
      priority ≤ incumbent.priority → after.registration? target = some incumbent) ∧
      ((∀ incumbent, registry.registration? target = some incumbent →
          incumbent.priority < priority) →
        after.registration? target = some ⟨priority, converter⟩) ∧
        ∀ other, other ≠ target → after.registration? other = registry.registration? other

theorem registerAll_singleton {converter : Converter} {target : ValueType}
    (declared : converter.targetType = .ok target) (registry : Registry) :
    registry.registerAll [converter] =
      .ok (registry.register target ⟨converter.priority.getD 100, converter⟩) := by
  rw [Builder.registerAll_eq_ok_iff,
    List.filterMap_cons_some (Builder.inferred?_of_targetType declared)]
  refine ⟨?_, rfl⟩
  intro other member
  rw [List.mem_singleton.mp member]
  exact ⟨target, declared⟩

/-- Every converter competes for its type with the marker it carries itself, or with 100. -/
theorem competesFor {converter : Converter} {target : ValueType}
    (declared : converter.targetType = .ok target) (registry : Registry) :
    registry.CompetesFor target converter (converter.priority.getD 100) := by
  refine ⟨_, registerAll_singleton declared registry, ?_, ?_, ?_⟩
  · intro incumbent present notGreater
    have stays : outranks (converter.priority.getD 100) (some incumbent) = false :=
      decide_eq_false (Int.not_lt.mpr notGreater)
    rw [registration?_register_self, present, stays]
    rfl
  · intro overtakes
    rw [registration?_register_self]
    cases present : registry.registration? target with
    | none => rfl
    | some incumbent =>
        have replaced : outranks (converter.priority.getD 100) (some incumbent) = true :=
          decide_eq_true (overtakes incumbent present)
        rw [replaced]
        rfl
  · intro other different
    exact registration?_register_of_ne different registry _

end Registry

/-- The type of a converter is decided by the first level of its lineage that declares something:
it is the one type that this level declares, and any other number of types fails with the name of
that level and the number, whatever stands further up. If no level declares anything, the failure
names the converter itself. Inside derived converters, however many, a converter converts as it
does alone, and what competes is the marker of the outermost one. -/
theorem Converter.lineage_decides_type (converter : Converter) :
    ((∀ level target, converter.DeclaresFirst level [target] →
        converter.targetType = .ok target) ∧
      (∀ level types, converter.DeclaresFirst level types → types.length ≠ 1 →
        converter.targetType = .error (.malformedType level.name types.length)) ∧
        ((∀ level ∈ converter.lineage, level.declared = none) →
          converter.targetType = .error (.unresolvedType converter.name))) ∧
      ∀ links,
        (∀ raw, (converter.within links).convert raw = converter.convert raw) ∧
          ∀ (registry : Registry) target, converter.targetType = .ok target →
            registry.CompetesFor target (converter.within links)
              ((converter.outermostMarker links).getD 100) := by
  refine ⟨⟨?_, ?_, ?_⟩, ?_⟩
  · intro level target first
    rw [targetType_eq, first.declaration?]
  · intro level types first notOne
    rw [targetType_eq, first.declaration?]
    rcases types with _ | ⟨target, _ | ⟨second, rest⟩⟩
    · rfl
    · exact absurd rfl notOne
    · rfl
  · intro silent
    rw [targetType_eq, declaration?_of_silent silent]
  · intro links
    refine ⟨converter.convert_within links, ?_⟩
    intro registry target declared
    have competes := Registry.competesFor (targetType_within declared links) registry
    rwa [converter.priority_within] at competes

end LayeredConfig
