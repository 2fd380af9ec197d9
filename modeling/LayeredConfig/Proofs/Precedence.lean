import LayeredConfig.Proofs.Foremost
import LayeredConfig.Proofs.Ranking

/-!
A configuration asks its sources in the order of their ranking, so a key has the value that the
foremost source gives it: among those that answer at the moment, the earliest in the assembly
with the greatest ordinal. The ordinals are the ones that the build has read. What a source says
of itself later may change its answers, but not its rank.
-/

namespace LayeredConfig.Builder

open Traversal

section Heads

variable {α : Type} {items ranked : List (Int × α)}

/-- What is left of a ranking when items are left out is a ranking of what is left. -/
theorem IsRanking.filter
    (ranking : IsRanking items ranked) (keeps : Int × α → Bool) :
    IsRanking (items.filter keeps) (ranked.filter keeps) where
  perm := ranking.perm.filter keeps
  descending := ranking.descending.filter keeps
  stable number := by
    rw [List.filter_comm, ranking.stable, List.filter_comm]

/-- At the head of a ranking stands the foremost item. The items with its number keep their
order, so none of those before it can have as great a number. -/
theorem IsRanking.foremost_head {leader : Int × α} {rest : List (Int × α)}
    (ranking : IsRanking items (leader :: rest)) :
    Foremost Prod.fst items leader := by
  have alike := ranking.stable leader.1
  rw [List.filter_cons_of_pos (by simp)] at alike
  obtain ⟨earlier, later, split, different, _, _⟩ := List.filter_eq_cons_iff.mp alike.symm
  refine ⟨earlier, later, split, ?_, ?_⟩
  · intro other member
    have notAbove : other.1 ≤ leader.1 := ranking.head_max (by rw [split]; simp [member])
    have notEqual : other.1 ≠ leader.1 := by simpa using different other member
    exact Int.lt_iff_le_and_ne.mpr ⟨notAbove, notEqual⟩
  · intro other member
    exact ranking.head_max (by rw [split]; simp [member])

theorem IsRanking.head?_eq_some_iff {leader : Int × α}
    (ranking : IsRanking items ranked) :
    ranked.head? = some leader ↔ Foremost Prod.fst items leader := by
  constructor
  · intro isHead
    obtain ⟨rest, rfl⟩ := List.head?_eq_some_iff.mp isHead
    exact ranking.foremost_head
  · intro foremost
    cases ranked with
    | nil =>
        have empty : items = [] := ranking.perm.nil_eq.symm
        have member := foremost.mem
        rw [empty] at member
        exact absurd member List.not_mem_nil
    | cons head rest =>
        rw [ranking.foremost_head.unique foremost]
        rfl

end Heads

/-- The sources that answer a key at the moment, with the ordinals that were read. -/
def answering (now : World) (key : String) (read : List (Int × Source)) :
    List (Int × Source) :=
  read.filter fun item => (item.2.value? now key).isSome

private theorem findSome?_eq_bind_head? {α β : Type} (answer : α → Option β) (asked : List α) :
    asked.findSome? answer =
      (asked.filter fun item => (answer item).isSome).head?.bind answer := by
  induction asked with
  | nil => rfl
  | cons first rest inductionHypothesis =>
      cases given : answer first with
      | none => simp [given, inductionHypothesis]
      | some value => simp [given]

/-- The first answer along a ranking is that of the foremost of the items that answer. -/
theorem IsRanking.findSome?_eq_some_iff {α β : Type} {items ranked : List (Int × α)}
    (ranking : IsRanking items ranked) {answer : α → Option β} {value : β} :
    (ranked.map Prod.snd).findSome? answer = some value ↔
      ∃ leader,
        Foremost Prod.fst (items.filter fun item => (answer item.2).isSome) leader ∧
          answer leader.2 = some value := by
  rw [List.findSome?_map, findSome?_eq_bind_head?, Option.bind_eq_some_iff]
  have foremost := ranking.filter fun item => (answer item.2).isSome
  constructor
  · intro answered
    obtain ⟨leader, isHead, gives⟩ := answered
    exact ⟨leader, foremost.head?_eq_some_iff.mp isHead, gives⟩
  · intro answered
    obtain ⟨leader, leads, gives⟩ := answered
    exact ⟨leader, foremost.head?_eq_some_iff.mpr leads, gives⟩

/-- A key has the value that the foremost of the answering sources gives it. -/
theorem rawValue?_eq_some_iff {config : Config} {read ranked : List (Int × Source)}
    (ranking : IsRanking read ranked) (ordered : config.sources = ranked.map Prod.snd)
    {now : World} {key value : String} :
    config.rawValue? now key = some value ↔
      ∃ leader,
        Foremost Prod.fst (answering now key read) leader ∧
          leader.2.value? now key = some value := by
  rw [Config.rawValue?, ordered]
  exact ranking.findSome?_eq_some_iff

theorem rawValue?_eq_none_iff {config : Config} {read ranked : List (Int × Source)}
    (ranking : IsRanking read ranked) (ordered : config.sources = ranked.map Prod.snd)
    {now : World} {key : String} :
    config.rawValue? now key = none ↔
      ∀ source ∈ read.map Prod.snd, source.value? now key = none := by
  rw [Config.rawValue?, ordered, List.findSome?_eq_none_iff]
  exact forall_congr' fun source => by rw [(ranking.perm.map Prod.snd).mem_iff]

/-- The newcomer answers the key, and either no source answered it before, or the foremost of
those that did has a lesser ordinal. -/
def Overtakes (now : World) (key : String) (read : List (Int × Source))
    (newcomer : Int × Source) : Prop :=
  (newcomer.2.value? now key).isSome ∧
    ((∀ item ∈ read, item.2.value? now key = none) ∨
      ∃ leader, Foremost Prod.fst (answering now key read) leader ∧ leader.1 < newcomer.1)

section Newcomer

variable {config widened : Config} {read ranked widenedRanked : List (Int × Source)}
  {newcomer : Int × Source} {now : World} {key : String}

theorem rawValue?_of_overtakes
    (ranking : IsRanking (read ++ [newcomer]) widenedRanked)
    (ordered : widened.sources = widenedRanked.map Prod.snd)
    (overtakes : Overtakes now key read newcomer) :
    widened.rawValue? now key = newcomer.2.value? now key := by
  obtain ⟨answers, alone | ⟨leader, foremost, greater⟩⟩ := overtakes
  all_goals
    obtain ⟨value, given⟩ := Option.isSome_iff_exists.mp answers
    have last : answering now key (read ++ [newcomer]) = answering now key read ++ [newcomer] := by
      simp [answering, given]
    rw [given, rawValue?_eq_some_iff ranking ordered, last]
    refine ⟨newcomer, ?_, given⟩
  · have nobody : answering now key read = [] := by
      simpa [answering, List.filter_eq_nil_iff] using alone
    rw [nobody]
    exact ⟨[], [], rfl, by simp, by simp⟩
  · exact foremost.overtaken greater

theorem rawValue?_of_not_overtakes
    (ranking : IsRanking read ranked) (ordered : config.sources = ranked.map Prod.snd)
    (widenedRanking : IsRanking (read ++ [newcomer]) widenedRanked)
    (widenedOrdered : widened.sources = widenedRanked.map Prod.snd)
    (notOvertakes : ¬ Overtakes now key read newcomer) :
    widened.rawValue? now key = config.rawValue? now key := by
  by_cases answers : (newcomer.2.value? now key).isSome
  · have before : config.rawValue? now key ≠ none := by
      intro nobody
      have alone := (rawValue?_eq_none_iff ranking ordered).mp nobody
      rw [List.forall_mem_map] at alone
      exact notOvertakes ⟨answers, Or.inl alone⟩
    obtain ⟨value, answered⟩ := Option.ne_none_iff_exists'.mp before
    obtain ⟨leader, foremost, given⟩ := (rawValue?_eq_some_iff ranking ordered).mp answered
    have notGreater : newcomer.1 ≤ leader.1 := by
      by_contra greater
      exact notOvertakes ⟨answers, Or.inr ⟨leader, foremost, Int.not_le.mp greater⟩⟩
    have last : answering now key (read ++ [newcomer]) = answering now key read ++ [newcomer] := by
      simp [answering, answers]
    rw [answered, rawValue?_eq_some_iff widenedRanking widenedOrdered, last]
    exact ⟨leader, foremost.kept notGreater, given⟩
  · have silent : answering now key (read ++ [newcomer]) = answering now key read := by
      simp [answering, answers]
    apply Option.ext
    intro value
    rw [rawValue?_eq_some_iff widenedRanking widenedOrdered, rawValue?_eq_some_iff ranking ordered,
      silent]

end Newcomer

/-- Whenever its ordinal is read, the source gives the same number. -/
def Steady (world : World) (source : Source) (number : Int) : Prop :=
  ∀ counters, (source.ordinal world counters).1 = number

theorem readOrdinals_append (world : World) (counters : Counters) (first second : List Source) :
    (readOrdinals world counters (first ++ second)).1 =
      (readOrdinals world counters first).1 ++
        (readOrdinals world (readOrdinals world counters first).2 second).1 := by
  induction first generalizing counters with
  | nil => rfl
  | cons source rest inductionHypothesis =>
      exact congrArg (List.cons _) (inductionHypothesis _)

/-- The readings of steady sources do not depend on what was read before. -/
theorem readOrdinals_eq_of_steady {world : World} {sources : List Source}
    (steady : ∀ source ∈ sources, ∃ number, Steady world source number)
    (counters other : Counters) :
    (readOrdinals world counters sources).1 = (readOrdinals world other sources).1 := by
  induction sources generalizing counters other with
  | nil => rfl
  | cons source rest inductionHypothesis =>
      obtain ⟨⟨number, same⟩, restSteady⟩ := List.forall_mem_cons.mp steady
      rw [readOrdinals, readOrdinals]
      exact congrArg₂ List.cons (by rw [same counters, same other])
        (inductionHypothesis restSteady _ _)

/-- Without discovered and default sources only the explicit ones are assembled. -/
theorem assemble_explicit {builder : Builder} {installed : Registrations} {world : World}
    (noDefaults : builder.withDefaults = false)
    (noDiscoveries : builder.withDiscoveredSources = false) :
    builder.assemble installed world = .ok builder.sources := by
  rw [assemble, discoveries, includedDefaults, noDefaults, noDiscoveries]
  simp [bind, Except.bind, pure, Except.pure]

/-! ## Answers of a build -/

theorem Readings.length_eq {world : World} {counters after : Counters} {sources : List Source}
    {ordinals : List Int} (readings : Readings world counters sources ordinals after) :
    ordinals.length = sources.length := by
  induction readings with
  | none counters => rfl
  | next _ _ inductionHypothesis => exact congrArg (· + 1) inductionHypothesis

/-- However the world changes after a successful build, a key has no value exactly if no source
of the assembly answers it, and otherwise the one given by the foremost of those that do, by the
ordinals that the build has read. A builder with nothing but explicit sources, all of them
steady, can be given one more: that succeeds as well, and only keys for which the newcomer
overtakes all others change, to what it answers. -/
theorem build_answers_with_foremost {early world : World} {installed : Registrations}
    {counters : Counters} {calls : List Call} {builder : Builder} {config : Config}
    (made : (Builder.new early).callAll calls = .ok builder)
    (built : (builder.build installed world counters).result = .ok config) :
    ∃ assembly ordinals,
      IsAssembly ((Builder.new early).staged calls) installed world assembly ∧
        Readings world counters assembly ordinals
            (builder.build installed world counters).counters ∧
          (∀ now key,
            (config.rawValue? now key = none ↔
              ∀ source ∈ assembly, source.value? now key = none) ∧
              ∀ value,
                config.rawValue? now key = some value ↔
                  ∃ leader,
                    Foremost Prod.fst (answering now key (ordinals.zip assembly)) leader ∧
                      leader.2.value? now key = some value) ∧
            (builder.withDefaults = false → builder.withDiscoveredSources = false →
              (∀ source ∈ builder.sources, ∃ number, Steady world source number) →
                ∀ newcomer number, Steady world newcomer number → ∀ between, ∃ widened,
                  ((builder.addSources [newcomer]).build installed world between).result =
                      .ok widened ∧
                    ∀ now key,
                      (widened.rawValue? now key ≠ config.rawValue? now key →
                        Overtakes now key (ordinals.zip assembly) (number, newcomer)) ∧
                        (Overtakes now key (ordinals.zip assembly) (number, newcomer) →
                          widened.rawValue? now key = newcomer.value? now key)) := by
  obtain ⟨_, rfl⟩ := callAll_eq_ok_iff.mp made
  obtain ⟨assembly, registry, assembled, completed, rfl⟩ := build_result_eq_ok_iff.mp built
  obtain ⟨ordinals, readings, pairs⟩ := readOrdinals_readings world counters assembly
  have ranking := isRanking_mergeSort (ordinals.zip assembly)
  have listed : (ordinals.zip assembly).map Prod.snd = assembly :=
    List.map_snd_zip (Nat.le_of_eq readings.length_eq.symm)
  have ordered : rank (readOrdinals world counters assembly).1 = _ :=
    congrArg rank pairs
  refine ⟨assembly, ordinals, assemble_eq_ok_iff.mp assembled, ?_, ?_, ?_⟩
  · rw [build_counters assembled completed]
    exact readings
  · intro now key
    refine ⟨?_, fun value => rawValue?_eq_some_iff ranking ordered⟩
    rw [rawValue?_eq_none_iff ranking ordered, listed]
  · intro noDefaults noDiscoveries steady newcomer number same between
    have explicit : assembly = ((Builder.new early).staged calls).sources := by
      have direct : ((Builder.new early).staged calls).assemble installed world =
          .ok ((Builder.new early).staged calls).sources :=
        assemble_explicit noDefaults noDiscoveries
      exact Except.ok.inj (assembled.symm.trans direct)
    have widenedAssembled :
        (((Builder.new early).staged calls).addSources [newcomer]).assemble installed world =
          .ok (assembly ++ [newcomer]) := by
      rw [explicit]
      exact assemble_explicit noDefaults noDiscoveries
    have read : (readOrdinals world between (assembly ++ [newcomer])).1 =
        ordinals.zip assembly ++ [(number, newcomer)] := by
      rw [← explicit] at steady
      rw [readOrdinals_append, readOrdinals_eq_of_steady steady between counters, pairs]
      exact congrArg (fun ordinal => _ ++ [(ordinal, newcomer)]) (same _)
    have widenedRanking := isRanking_mergeSort (ordinals.zip assembly ++ [(number, newcomer)])
    have widenedOrdered : rank (readOrdinals world between (assembly ++ [newcomer])).1 = _ :=
      congrArg rank read
    refine ⟨_, build_result_eq_ok_iff.mpr ⟨_, registry, widenedAssembled, completed, rfl⟩, ?_⟩
    intro now key
    constructor
    · intro changed
      by_contra notOvertakes
      exact changed (rawValue?_of_not_overtakes ranking ordered widenedRanking widenedOrdered
        notOvertakes)
    · exact rawValue?_of_overtakes widenedRanking widenedOrdered

/-- A key that the environment answers under a mapped name and a lower source under the key
itself, and a newcomer that ranks above both. -/
theorem build_answers_with_foremost_mapped :
    let world : World :=
      ⟨⟨"<cwd>", []⟩, ⟨[("SERVER_PORT", "80".toUTF8)], by decide⟩, .empty⟩
    let below : Source := .plain "below" ⟨[("server.port", "90")], by decide⟩
    let newcomer : Source := .fixed "newcomer" 301 ⟨[("server.port", "1")], by decide⟩
    let calls : List Call :=
      [.addSources [below], .includeDiscoveredConverters, .addSources [.environment, below]]
    ∃ builder config,
      (Builder.new world).callAll calls = .ok builder ∧
        (builder.build .empty world .empty).result = .ok config ∧
          builder.withDefaults = false ∧ builder.withDiscoveredSources = false ∧
            (∀ source ∈ builder.sources, ∃ number, Steady world source number) ∧
              Steady world newcomer 301 ∧
                ∃ assembly ordinals,
                  IsAssembly ((Builder.new world).staged calls) .empty world assembly ∧
                    Readings world .empty assembly ordinals
                        (builder.build .empty world .empty).counters ∧
                      (∀ now key,
                        (config.rawValue? now key = none ↔
                          ∀ source ∈ assembly, source.value? now key = none) ∧
                          ∀ value,
                            config.rawValue? now key = some value ↔
                              ∃ leader,
                                Foremost Prod.fst
                                    (answering now key (ordinals.zip assembly)) leader ∧
                                  leader.2.value? now key = some value) ∧
                        ∃ widened,
                          ((builder.addSources [newcomer]).build .empty world ⟨1, [7]⟩).result =
                              .ok widened ∧
                            ∀ now key,
                              (widened.rawValue? now key ≠ config.rawValue? now key →
                                Overtakes now key (ordinals.zip assembly) (301, newcomer)) ∧
                                (Overtakes now key (ordinals.zip assembly) (301, newcomer) →
                                  widened.rawValue? now key = newcomer.value? now key) := by
  intro world below newcomer calls
  have steady : ∀ source ∈ [below, .environment, below],
      ∃ number, Steady world source number := by
    intro source member
    simp only [List.mem_cons, List.not_mem_nil, or_false] at member
    rcases member with rfl | rfl | rfl <;> exact ⟨_, fun _ => rfl⟩
  have newcomerSteady : Steady world newcomer 301 := fun _ => rfl
  have made : (Builder.new world).callAll calls = .ok ((Builder.new world).staged calls) := rfl
  have built : (((Builder.new world).staged calls).build .empty world .empty).result = .ok _ := rfl
  obtain ⟨assembly, ordinals, isAssembly, readings, answers, widening⟩ :=
    build_answers_with_foremost made built
  exact ⟨_, _, made, built, rfl, rfl, steady, newcomerSteady, assembly, ordinals, isAssembly,
    readings, answers, widening rfl rfl steady newcomer 301 newcomerSteady ⟨1, [7]⟩⟩

end LayeredConfig.Builder
