import LayeredConfig.Proofs.Answers
import LayeredConfig.Proofs.Precedence
import LayeredConfig.Proofs.Repetition

/-!
A source that is among the explicit sources already may be added once more. Its further
occurrence reports the same ordinal, so it is ranked below the first one, and what it says has
been said before. A configuration that is built with it answers as if it were not there.
-/

namespace LayeredConfig.Builder

open Traversal

/-- Whenever the ordinal of the source is read, it is the same number, and the reading leaves
everything as it was. -/
def Still (world : World) (source : Source) (number : Int) : Prop :=
  ∀ counters, source.ordinal world counters = (number, counters)

/-- Still sources are read as if each of them were alone, and what comes after them as if they
were not there. -/
theorem readOrdinals_still_append {world : World} {sources : List Source}
    (still : ∀ source ∈ sources, ∃ number, Still world source number)
    (counters : Counters) (rest : List Source) :
    (readOrdinals world counters (sources ++ rest)).1 =
      sources.map (fun source => ((source.ordinal world counters).1, source)) ++
        (readOrdinals world counters rest).1 := by
  induction sources with
  | nil =>
      rfl
  | cons source others inductionHypothesis =>
      obtain ⟨⟨number, same⟩, othersStill⟩ := List.forall_mem_cons.mp still
      have later := inductionHypothesis othersStill
      rw [List.cons_append, readOrdinals, List.map_cons, same counters, List.cons_append]
      exact congrArg (List.cons _) later

/-- What a build includes besides the explicit sources does not depend on them. -/
theorem exists_included (builder : Builder) (installed : Registrations) (world : World) :
    ∃ included : Except Failure (List Source), ∀ sources : List Source,
      ({ builder with sources := sources } : Builder).assemble installed world =
        included.map (sources ++ ·) := by
  refine ⟨do
    let discovered ← builder.discoveries installed world
    let defaults ← builder.includedDefaults world
    pure (discovered ++ defaults), ?_⟩
  intro sources
  have sameDiscoveries :
      ({ builder with sources := sources } : Builder).discoveries installed world =
        builder.discoveries installed world := rfl
  have sameDefaults :
      ({ builder with sources := sources } : Builder).includedDefaults world =
        builder.includedDefaults world := rfl
  rw [assemble, sameDiscoveries, sameDefaults]
  cases builder.discoveries installed world with
  | error failure => rfl
  | ok discovered =>
      cases builder.includedDefaults world with
      | error failure => rfl
      | ok defaults => simp [bind, Except.bind, pure, Except.pure, Except.map]

theorem findSome?_rank_of_repeats {β : Type} {read longer : List (Int × Source)}
    (repeats : Repeats read longer) (pick : Source → Option β) :
    (rank longer).findSome? pick = (rank read).findSome? pick := by
  apply Option.ext
  intro value
  have longerRanking := isRanking_mergeSort longer
  have ranking := isRanking_mergeSort read
  rw [rank, rank, longerRanking.findSome?_eq_some_iff, ranking.findSome?_eq_some_iff]
  have answering := repeats.filter fun item => (pick item.2).isSome
  simp only [Foremost.iff_of_repeats answering]

/-- The ranking decides what is said first, and repeated readings come too late for it. -/
theorem answersAlike_of_repeats {read longer : List (Int × Source)}
    (repeats : Repeats read longer) (registered : List (ValueType × Converter)) (now : World) :
    Config.AnswersAlike ⟨rank longer, registered⟩ now ⟨rank read, registered⟩ now := by
  refine Config.answersAlike_of_sameFirst ?_ ?_
  · rfl
  intro β pick
  rw [Config.views, Config.views, List.findSome?_map, List.findSome?_map]
  exact findSome?_rank_of_repeats repeats _

/-- Explicit sources that are still may be repeated behind their first occurrences. The build
fails as it did, or it gives a configuration that answers alike at every later moment. -/
theorem build_with_repeated_sources {builder : Builder} {world : World} {repeated : List Source}
    (still : ∀ source ∈ builder.sources, ∃ number, Still world source number)
    (repeats : Repeats builder.sources repeated) (installed : Registrations) (counters : Counters) :
    let longer : Builder := { builder with sources := repeated }
    (∀ failure,
        (longer.build installed world counters).result = .error failure ↔
          (builder.build installed world counters).result = .error failure) ∧
      ∀ config, (builder.build installed world counters).result = .ok config →
        ∃ widened, (longer.build installed world counters).result = .ok widened ∧
          ∀ now, Config.AnswersAlike widened now config now := by
  intro longer
  obtain ⟨included, assembled⟩ := exists_included builder installed world
  have direct : builder.assemble installed world = included.map (builder.sources ++ ·) :=
    assembled builder.sources
  have lengthened : longer.assemble installed world = included.map (repeated ++ ·) :=
    assembled repeated
  have sameRegistry :
      longer.completeRegistry installed world = builder.completeRegistry installed world := rfl
  constructor
  · intro failure
    rw [build_result_eq_error_iff, build_result_eq_error_iff, direct, lengthened, sameRegistry]
    cases included with
    | error other => rfl
    | ok rest => rfl
  · intro config built
    obtain ⟨sources, registry, assembledHere, completed, rfl⟩ := build_result_eq_ok_iff.mp built
    rw [direct] at assembledHere
    obtain ⟨rest, rfl, rfl⟩ := map_eq_ok_iff.mp assembledHere
    have repeatedStill : ∀ source ∈ repeated, ∃ number, Still world source number := by
      intro source member
      exact still source (repeats.mem_iff.mp member)
    have read : Repeats (readOrdinals world counters (builder.sources ++ rest)).1
        (readOrdinals world counters (repeated ++ rest)).1 := by
      rw [readOrdinals_still_append still, readOrdinals_still_append repeatedStill]
      exact (repeats.map _).append_right _
    refine ⟨_, build_result_eq_ok_iff.mpr ⟨_, registry, lengthened, completed, rfl⟩, ?_⟩
    intro now
    exact answersAlike_of_repeats read registry.finish now

/-- Two tied sources, one of which takes the other's place in the tree, and the lower one is added
again below the other. -/
theorem build_with_repeated_sources_tied :
    let world : World := ⟨⟨"<cwd>", []⟩, .empty, .empty⟩
    let deep : Source := .plain "deep" ⟨[("server.port", "80")], by decide⟩
    let flat : Source := .fixed "flat" 100 ⟨[("server", "here")], by decide⟩
    let builder : Builder :=
      { Builder.new world with
        sources := [deep, flat, .environment], context := .empty, withDefaults := true }
    let longer : Builder :=
      { builder with sources := [deep, flat, deep, flat, .environment, deep] }
    (∀ source ∈ builder.sources, ∃ number, Still world source number) ∧
      Repeats builder.sources longer.sources ∧
        ∃ config widened,
          (builder.build .empty world .empty).result = .ok config ∧
            (longer.build .empty world .empty).result = .ok widened ∧
              ∀ now, Config.AnswersAlike widened now config now := by
  intro world deep flat builder longer
  have still : ∀ source ∈ builder.sources, ∃ number, Still world source number := by
    intro source member
    simp only [builder, List.mem_cons, List.not_mem_nil, or_false] at member
    rcases member with rfl | rfl | rfl <;> exact ⟨_, fun _ => rfl⟩
  have start : Repeats builder.sources ([deep, flat] ++ [.environment]) := Repeats.refl
  have once : Repeats builder.sources ([deep, flat] ++ deep :: [.environment]) :=
    start.again (by simp)
  have twice : Repeats builder.sources ([deep, flat, deep] ++ flat :: [.environment]) :=
    Repeats.again once (by simp)
  have repeats : Repeats builder.sources ([deep, flat, deep, flat, .environment] ++ deep :: []) :=
    Repeats.again twice (by simp)
  have built : (builder.build .empty world .empty).result = .ok _ := rfl
  obtain ⟨widened, longerBuilt, alike⟩ :=
    (build_with_repeated_sources still repeats .empty .empty).2 _ built
  exact ⟨still, repeats, _, widened, built, longerBuilt, alike⟩

end LayeredConfig.Builder
