import LayeredConfig.Proofs.FileEncodings
import LayeredConfig.Proofs.Traversal
import LayeredConfig.Source.Provider

/-!
A resource is looked up below every root of a context. Each root that holds it as a regular file
gives a source of its own, in the order of the roots, and the first file that cannot be read or is
malformed makes the whole look-up fail. Whether the resource is optional matters only where no root
holds it.
-/

namespace LayeredConfig

namespace Context

/-- The roots that hold a resource as a regular file. A root occurs as often as it does in the
context. -/
def holders (context : Context) (files : FileSystem) (resource : String) : List String :=
  context.roots.filter fun root => files.isFile (Path.join root resource)

theorem resolve_eq_map_holders
    (context : Context) (files : FileSystem) (resource : String) :
    context.resolve files resource =
      (context.holders files resource).map fun root => Path.join root resource := by
  rw [resolve, holders, List.filter_map]
  rfl

theorem holders_append
    (first second : List String) (files : FileSystem) (resource : String) :
    holders ⟨first ++ second⟩ files resource =
      holders ⟨first⟩ files resource ++ holders ⟨second⟩ files resource :=
  List.filter_append first second

end Context

namespace Provider

/-- The source of a resource below a root, with the properties of the file that the root
holds. -/
def Holds (files : FileSystem) (resource root : String) (source : Source) : Prop :=
  ∃ bytes properties,
    files.read (Path.join root resource) = .ok bytes ∧
      Properties.parse (Text.decode bytes) = .ok properties ∧
        source = .propertiesFile (Path.join root resource) properties

/-- How the file that a root holds is reported if it cannot be read, or if it is malformed. -/
inductive Spoils (files : FileSystem) (resource root : String) : Failure → Prop where
  | unreadable (cause : FileFailure)
      (refused : files.read (Path.join root resource) = .error cause) :
      Spoils files resource root (.file cause)
  | malformed (bytes : ByteArray) (malformed : Properties.MalformedEscape)
      (read : files.read (Path.join root resource) = .ok bytes)
      (rejected : Properties.parse (Text.decode bytes) = .error malformed) :
      Spoils files resource root
        (.parse (Path.join root resource ++ ": " ++ malformed.message))

/-- The error of a required resource that no root holds. -/
def missing (resource : String) : Failure :=
  .load ("Required resource not found: " ++ resource)

section Loading

variable {files : FileSystem} {resource root : String}

theorem loadProperties_of_refused {cause : FileFailure}
    (refused : files.read (Path.join root resource) = .error cause) :
    Source.loadProperties files (Path.join root resource) = .error (.file cause) := by
  rw [Source.loadProperties, refused]
  rfl

theorem loadProperties_eq_ok_iff {source : Source} :
    Source.loadProperties files (Path.join root resource) = .ok source ↔
      Holds files resource root source := by
  cases read : files.read (Path.join root resource) with
  | error cause => simp [loadProperties_of_refused read, Holds, read]
  | ok bytes =>
      rw [(Source.loadsAs_decode read).loaded]
      simp [Holds, read]

theorem loadProperties_eq_error_iff {failure : Failure} :
    Source.loadProperties files (Path.join root resource) = .error failure ↔
      Spoils files resource root failure := by
  constructor
  · intro fails
    cases read : files.read (Path.join root resource) with
    | error cause =>
        rw [loadProperties_of_refused read, Except.error.injEq] at fails
        rw [← fails]
        exact .unreadable cause read
    | ok bytes =>
        obtain ⟨malformed, rejected, told⟩ := ((Source.loadsAs_decode read).failed _).mp fails
        rw [told]
        exact .malformed bytes malformed read rejected
  · intro spoils
    cases spoils with
    | unreadable cause refused => exact loadProperties_of_refused refused
    | malformed bytes malformed read rejected =>
        exact ((Source.loadsAs_decode read).failed _).mpr ⟨malformed, rejected, rfl⟩

end Loading

section Roots

variable {world : World} {files : FileSystem} {context : Context} {resource : String}

theorem resourceSources_eq_mapM_holders :
    resourceSources files context resource =
      (context.holders files resource).mapM fun root =>
        Source.loadProperties files (Path.join root resource) := by
  rw [resourceSources, Context.resolve_eq_map_holders, List.mapM_map]
  rfl

theorem resourceSources_eq_ok_iff_holds {sources : List Source} :
    resourceSources files context resource = .ok sources ↔
      List.Forall₂ (Holds files resource) (context.holders files resource) sources := by
  rw [resourceSources_eq_mapM_holders, Traversal.mapM_eq_ok_iff]
  simp only [loadProperties_eq_ok_iff]

theorem resourceSources_eq_error_iff {failure : Failure} :
    resourceSources files context resource = .error failure ↔
      ∃ earlier root later,
        context.holders files resource = earlier ++ root :: later ∧
          (∀ other ∈ earlier, ∃ source, Holds files resource other source) ∧
            Spoils files resource root failure := by
  rw [resourceSources_eq_mapM_holders, Traversal.mapM_eq_error_iff]
  simp only [loadProperties_eq_ok_iff, loadProperties_eq_error_iff]

theorem resourceSources_append (first second : List String) :
    resourceSources files ⟨first ++ second⟩ resource = (do
      let upper ← resourceSources files ⟨first⟩ resource
      let lower ← resourceSources files ⟨second⟩ resource
      pure (upper ++ lower)) := by
  simp only [resourceSources_eq_mapM_holders, Context.holders_append, List.mapM_append]

theorem isEmpty_resolve_iff :
    (context.resolve files resource).isEmpty = true ↔ context.holders files resource = [] := by
  rw [Context.resolve_eq_map_holders, List.isEmpty_iff, List.map_eq_nil_iff]

theorem sources_of_missing
    {optional : Bool} (absent : optional = false ∧ context.holders world.files resource = []) :
    (Provider.resource resource optional).sources world context = .error (missing resource) := by
  obtain ⟨rfl, nowhere⟩ := absent
  rw [sources, isEmpty_resolve_iff.mpr nowhere]
  rfl

theorem sources_of_found
    {optional : Bool} (found : ¬(optional = false ∧ context.holders world.files resource = [])) :
    (Provider.resource resource optional).sources world context =
      resourceSources world.files context resource := by
  rw [sources, if_neg]
  rw [Bool.and_eq_true, Bool.not_eq_true', isEmpty_resolve_iff]
  exact found

theorem sources_eq_ok_iff_holds {optional : Bool} {sources : List Source} :
    (Provider.resource resource optional).sources world context = .ok sources ↔
      ¬(optional = false ∧ context.holders world.files resource = []) ∧
        List.Forall₂ (Holds world.files resource) (context.holders world.files resource)
          sources := by
  by_cases absent : optional = false ∧ context.holders world.files resource = []
  · rw [sources_of_missing absent]
    constructor
    · intro given
      cases given
    · intro given
      exact absurd absent given.1
  · rw [sources_of_found absent, resourceSources_eq_ok_iff_holds]
    exact (and_iff_right absent).symm

theorem sources_eq_error_iff {optional : Bool} {failure : Failure} :
    (Provider.resource resource optional).sources world context = .error failure ↔
      (optional = false ∧ context.holders world.files resource = []) ∧ failure = missing resource ∨
        ∃ earlier root later,
          context.holders world.files resource = earlier ++ root :: later ∧
            (∀ other ∈ earlier, ∃ source, Holds world.files resource other source) ∧
              Spoils world.files resource root failure := by
  by_cases absent : optional = false ∧ context.holders world.files resource = []
  · rw [sources_of_missing absent]
    constructor
    · intro told
      exact .inl ⟨absent, (Except.error.inj told).symm⟩
    · intro told
      obtain ⟨_, rfl⟩ | ⟨earlier, root, later, split, _⟩ := told
      · rfl
      · rw [absent.2] at split
        exact absurd split (by simp)
  · rw [sources_of_found absent, resourceSources_eq_error_iff]
    constructor
    · exact Or.inr
    · intro told
      exact told.resolve_left fun excused => absent excused.1

theorem not_spoils_load {root reason : String} :
    ¬Spoils files resource root (.load reason) := by
  intro spoils
  cases spoils

end Roots

/-- A provider of a resource reads every root of the context. It gives one source for each root
that holds the resource as a regular file, in the order of the roots, with the properties of that
file. It fails for want of the resource exactly if the resource is required and no root holds it,
and otherwise exactly if one of the files cannot be read or is malformed, with the first of them:
that the resource is optional excuses only its absence. So an optional resource below two lists of
roots gives what it gives below the first, followed by what it gives below the second. -/
theorem sources_of_roots
    (world : World) (context : Context) (resource : String) (optional : Bool) :
    let holders := context.holders world.files resource
    let absent := optional = false ∧ holders = []
    let outcome := (Provider.resource resource optional).sources world context
    (∀ sources, outcome = .ok sources ↔
        ¬absent ∧ List.Forall₂ (Holds world.files resource) holders sources) ∧
      ((∃ reason, outcome = .error (.load reason)) ↔ absent) ∧
      (∀ failure, outcome = .error failure ↔
        absent ∧ failure = missing resource ∨
          ∃ earlier root later, holders = earlier ++ root :: later ∧
            (∀ other ∈ earlier, ∃ source, Holds world.files resource other source) ∧
              Spoils world.files resource root failure) ∧
      ∀ first second : List String,
        (Provider.resource resource true).sources world ⟨first ++ second⟩ = (do
          let upper ← (Provider.resource resource true).sources world ⟨first⟩
          let lower ← (Provider.resource resource true).sources world ⟨second⟩
          pure (upper ++ lower)) := by
  intro holders absent outcome
  refine ⟨fun _ => sources_eq_ok_iff_holds, ?_, fun _ => sources_eq_error_iff, ?_⟩
  · constructor
    · intro told
      obtain ⟨reason, told⟩ := told
      obtain excused | ⟨_, _, _, _, _, spoils⟩ := sources_eq_error_iff.mp told
      · exact excused.1
      · exact absurd spoils not_spoils_load
    · intro isAbsent
      exact ⟨_, sources_of_missing isAbsent⟩
  · intro first second
    have excuses (roots : List String) :
        ¬(true = false ∧ Context.holders ⟨roots⟩ world.files resource = []) := by simp
    rw [sources_of_found (excuses _), sources_of_found (excuses _), sources_of_found (excuses _)]
    exact resourceSources_append first second

end Provider

end LayeredConfig
