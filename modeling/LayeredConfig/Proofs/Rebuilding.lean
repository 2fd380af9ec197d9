import LayeredConfig.Proofs.Precedence

/-!
Two builds of one builder in one world differ in the counters at most, which change as ordinals
are read. So they assemble the same sources and come to the same converters; only a source whose
ordinal moves on by being read may stand at another place.
-/

namespace LayeredConfig.Builder

open Traversal

/-- Configurations that differ at most in the places of sources with moving ordinals: what is
left is the same whenever only steady sources are kept. -/
structure SameButMoving (world : World) (left right : Config) : Prop where
  registered : left.registered = right.registered
  perm : left.sources.Perm right.sources
  ordered : ∀ keeps : Source → Bool,
    (∀ source ∈ left.sources, keeps source → ∃ number, Steady world source number) →
      left.sources.filter keeps = right.sources.filter keeps

/-- Without moving ordinals the configurations are the same. -/
theorem SameButMoving.eq_of_steady
    {world : World} {left right : Config} (same : SameButMoving world left right)
    (steady : ∀ source ∈ left.sources, ∃ number, Steady world source number) :
    left = right := by
  have whole := same.ordered (fun _ => true) (fun source member _ => steady source member)
  rw [List.filter_true, List.filter_true] at whole
  obtain ⟨leftSources, leftRegistered⟩ := left
  obtain ⟨rightSources, rightRegistered⟩ := right
  exact congrArg₂ Config.mk whole same.registered

theorem map_snd_readOrdinals
    (world : World) (counters : Counters) (sources : List Source) :
    (readOrdinals world counters sources).1.map Prod.snd = sources := by
  induction sources generalizing counters with
  | nil =>
      rfl
  | cons source rest inductionHypothesis =>
      exact congrArg (List.cons source) (inductionHypothesis _)

/-- The readings of the sources that are kept do not depend on the counters. -/
theorem filter_readOrdinals
    {world : World} {sources : List Source} {keeps : Source → Bool}
    (steady : ∀ source ∈ sources, keeps source → ∃ number, Steady world source number)
    (counters other : Counters) :
    ((readOrdinals world counters sources).1.filter fun item => keeps item.2) =
      (readOrdinals world other sources).1.filter fun item => keeps item.2 := by
  induction sources generalizing counters other with
  | nil =>
      rfl
  | cons source rest inductionHypothesis =>
      obtain ⟨sourceSteady, restSteady⟩ := List.forall_mem_cons.mp steady
      -- the first readings may differ, and so may the counters that they leave to the rest
      rw [readOrdinals, readOrdinals, List.filter_cons, List.filter_cons,
        inductionHypothesis restSteady _ (source.ordinal world other).2]
      by_cases kept : keeps source
      · obtain ⟨number, same⟩ := sourceSteady kept
        rw [same counters, same other]
      · simp [kept]

theorem rank_readOrdinals_perm
    (world : World) (counters : Counters) (sources : List Source) :
    (rank (readOrdinals world counters sources).1).Perm sources := by
  have ranked := (isRanking_mergeSort (readOrdinals world counters sources).1).perm.map Prod.snd
  rw [map_snd_readOrdinals] at ranked
  exact ranked

theorem filter_rank
    (keeps : Source → Bool) (read : List (Int × Source)) :
    (rank read).filter keeps = rank (read.filter fun item => keeps item.2) := by
  have whole := (isRanking_mergeSort read).filter fun item => keeps item.2
  have part := isRanking_mergeSort (read.filter fun item => keeps item.2)
  rw [rank, rank, List.filter_map, part.unique whole]
  rfl

theorem rank_sameButMoving
    {world : World} (counters other : Counters) (sources : List Source)
    (registered : List (ValueType × Converter)) :
    SameButMoving world ⟨rank (readOrdinals world counters sources).1, registered⟩
      ⟨rank (readOrdinals world other sources).1, registered⟩ where
  registered := rfl
  perm := by
    have first := rank_readOrdinals_perm world counters sources
    have second := rank_readOrdinals_perm world other sources
    exact first.trans second.symm
  ordered keeps steady := by
    have kept : ∀ source ∈ sources, keeps source → ∃ number, Steady world source number := by
      intro source member
      apply steady
      exact (rank_readOrdinals_perm world counters sources).mem_iff.mpr member
    rw [filter_rank, filter_rank, filter_readOrdinals kept counters other]

/-- With other counters a build fails alike, or it gives the same configuration but for the
places of sources with moving ordinals; and it asks the same questions. -/
theorem build_with_other_counters
    (builder : Builder) (installed : Registrations) (world : World) (counters other : Counters) :
    (∀ failure,
        (builder.build installed world counters).result = .error failure ↔
          (builder.build installed world other).result = .error failure) ∧
      (∀ config, (builder.build installed world counters).result = .ok config →
        ∃ again, (builder.build installed world other).result = .ok again ∧
          SameButMoving world config again) ∧
        (builder.build installed world counters).asked =
          (builder.build installed world other).asked := by
  refine ⟨?_, ?_, ?_⟩
  · intro failure
    rw [build_result_eq_error_iff, build_result_eq_error_iff]
  · intro config built
    obtain ⟨sources, registry, assembled, completed, rfl⟩ := build_result_eq_ok_iff.mp built
    refine ⟨_, build_result_eq_ok_iff.mpr ⟨sources, registry, assembled, completed, rfl⟩, ?_⟩
    exact rank_sameButMoving counters other sources registry.finish
  · rw [build_eq, build_eq]
    cases builder.assemble installed world with
    | error failure => rfl
    | ok sources =>
        cases builder.completeRegistry installed world with
        | error failure => rfl
        | ok registry => rfl

end LayeredConfig.Builder
