import LayeredConfig.Proofs.Preparation
import LayeredConfig.Proofs.Staging

/-!
# Ranking of the assembled sources

A build assembles sources from four origins, asks each of them once for its ordinal, in the
order in which they were assembled, and sorts them by the answers. Sources that answered alike
keep their order. The ranking is stated for the answers as they were given, so that it covers
sources whose ordinal moves on whenever it is read, and sources that occur several times.
-/

namespace LayeredConfig.Builder

open Traversal

/-- The sources of the files that a resource is found in, root by root. -/
def IsResource (files : FileSystem) (context : Context) (resource : String)
    (sources : List Source) : Prop :=
  List.Forall₂ (fun path source => Source.loadProperties files path = .ok source)
    ((context.roots.map fun root => Path.join root resource).filter files.isFile) sources

/-- The sources of a catalog, and after them those of each of its providers in turn. -/
def IsDiscovered (world : World) (context : Context) (catalog : Catalog)
    (sources : List Source) : Prop :=
  ∃ provided,
    List.Forall₂ (fun provider given => provider.sources world context = .ok given)
        catalog.providers provided ∧
      sources = catalog.sources ++ provided.flatten

/-- The environment, the system properties, the resources of the application, and those of the
web application. -/
def IsDefault (files : FileSystem) (context : Context) (sources : List Source) : Prop :=
  ∃ application web,
    IsResource files context "META-INF/microprofile-config.properties" application ∧
      IsResource files context "WEB-INF/classes/META-INF/microprofile-config.properties" web ∧
        sources = [.environment, .system] ++ application ++ web

/-- The assembly of a builder: the explicit sources as they were added, then the discovered
ones and the default ones, as far as they are included. -/
def IsAssembly (builder : Builder) (installed : Registrations) (world : World)
    (assembly : List Source) : Prop :=
  ∃ discovered defaults,
    (if builder.withDiscoveredSources then
        IsDiscovered world builder.context
          (builder.discovery.catalog installed world builder.context) discovered
      else discovered = []) ∧
      (if builder.withDefaults then IsDefault world.files builder.context defaults
        else defaults = []) ∧
        assembly = builder.sources ++ discovered ++ defaults

theorem resourceSources_eq_ok_iff {files : FileSystem} {context : Context} {resource : String}
    {sources : List Source} :
    Provider.resourceSources files context resource = .ok sources ↔
      IsResource files context resource sources :=
  mapM_eq_ok_iff

/-- An optional resource provider gives the sources of the resource, be there none or some. -/
theorem optional_sources_eq_ok_iff {world : World} {context : Context}
    {resource : String} {sources : List Source} :
    (Provider.resource resource true).sources world context = .ok sources ↔
      IsResource world.files context resource sources :=
  resourceSources_eq_ok_iff

theorem allSources_eq_ok_iff {world : World} {context : Context}
    {providers : List Provider} {sources : List Source} :
    Provider.allSources world context providers = .ok sources ↔
      ∃ provided,
        List.Forall₂ (fun provider given => provider.sources world context = .ok given)
            providers provided ∧
          sources = provided.flatten := by
  rw [Provider.allSources, map_eq_ok_iff]
  simp only [mapM_eq_ok_iff]
  constructor
  · intro traversed
    obtain ⟨provided, given, rfl⟩ := traversed
    exact ⟨provided, given, rfl⟩
  · intro collected
    obtain ⟨provided, given, rfl⟩ := collected
    exact ⟨provided, given, rfl⟩

theorem discoveredSources_eq_ok_iff {world : World} {context : Context}
    {catalog : Catalog} {sources : List Source} :
    discoveredSources world context catalog = .ok sources ↔
      IsDiscovered world context catalog sources := by
  rw [discoveredSources, bind_eq_ok_iff]
  simp only [allSources_eq_ok_iff]
  constructor
  · intro succeeded
    obtain ⟨_, ⟨provided, given, rfl⟩, final⟩ := succeeded
    exact ⟨provided, given, (Except.ok.inj final).symm⟩
  · intro discovered
    obtain ⟨provided, given, rfl⟩ := discovered
    exact ⟨_, ⟨provided, given, rfl⟩, rfl⟩

theorem defaultSources_eq_ok_iff {world : World} {context : Context}
    {sources : List Source} :
    defaultSources world context = .ok sources ↔ IsDefault world.files context sources := by
  rw [defaultSources, bind_eq_ok_iff]
  simp only [allSources_eq_ok_iff, defaultResources, List.map_cons, List.map_nil,
    List.forall₂_cons_left_iff, List.forall₂_nil_left_iff, optional_sources_eq_ok_iff]
  constructor
  · intro succeeded
    obtain ⟨_, ⟨_, ⟨application, _, found, ⟨web, _, foundWeb, rfl, rfl⟩, rfl⟩, rfl⟩, final⟩ :=
      succeeded
    refine ⟨application, web, found, foundWeb, ?_⟩
    rw [← Except.ok.inj final]
    simp
  · intro isDefault
    obtain ⟨application, web, found, foundWeb, rfl⟩ := isDefault
    refine ⟨_, ⟨_, ⟨application, _, found, ⟨web, _, foundWeb, rfl, rfl⟩, rfl⟩, rfl⟩, ?_⟩
    simp [pure, Except.pure]

/-- A part that is assembled only on demand. -/
private theorem onDemand_eq_ok_iff {asked : Bool} {part : Except Failure (List Source)}
    {sources : List Source} :
    (if asked then part else .ok []) = .ok sources ↔
      if asked then part = .ok sources else sources = [] := by
  cases asked with
  | true => rfl
  | false =>
      constructor
      · intro succeeded
        exact (Except.ok.inj succeeded).symm
      · intro empty
        exact congrArg Except.ok empty.symm

theorem assemble_eq_ok_iff {builder : Builder} {installed : Registrations} {world : World}
    {assembly : List Source} :
    builder.assemble installed world = .ok assembly ↔
      IsAssembly builder installed world assembly := by
  rw [assemble, bind_eq_ok_iff, IsAssembly]
  simp only [bind_eq_ok_iff, discoveries, includedDefaults, onDemand_eq_ok_iff,
    discoveredSources_eq_ok_iff, defaultSources_eq_ok_iff]
  constructor
  · intro assembled
    obtain ⟨discovered, isDiscovered, defaults, isDefault, final⟩ := assembled
    exact ⟨discovered, defaults, isDiscovered, isDefault, (Except.ok.inj final).symm⟩
  · intro isAssembly
    obtain ⟨discovered, defaults, isDiscovered, isDefault, rfl⟩ := isAssembly
    exact ⟨discovered, isDiscovered, defaults, isDefault, rfl⟩

/-- Successive readings: every source in the list is asked once for its ordinal, in the state
that the readings before have left. -/
inductive Readings (world : World) :
    Counters → List Source → List Int → Counters → Prop
  | none (counters : Counters) :
      Readings world counters [] [] counters
  | next {counters between after : Counters} {source : Source} {sources : List Source}
      {ordinal : Int} {ordinals : List Int} :
      source.ordinal world counters = (ordinal, between) →
      Readings world between sources ordinals after →
      Readings world counters (source :: sources) (ordinal :: ordinals) after

theorem readOrdinals_readings (world : World) (counters : Counters)
    (sources : List Source) :
    ∃ ordinals,
      Readings world counters sources ordinals (readOrdinals world counters sources).2 ∧
        (readOrdinals world counters sources).1 = ordinals.zip sources := by
  induction sources generalizing counters with
  | nil =>
      exact ⟨[], Readings.none counters, rfl⟩
  | cons source rest inductionHypothesis =>
      obtain ⟨ordinals, readings, pairs⟩ :=
        inductionHypothesis (source.ordinal world counters).2
      refine ⟨(source.ordinal world counters).1 :: ordinals,
        Readings.next rfl readings, ?_⟩
      rw [readOrdinals, List.zip_cons_cons, ← pairs]

section Rankings

variable {α : Type}

/-- A ranking of items by the numbers before them: all items, the greatest number first, and
those with one and the same number in the order they had. -/
structure IsRanking (items ranked : List (Int × α)) : Prop where
  perm : ranked.Perm items
  descending : ranked.Pairwise fun left right => right.1 ≤ left.1
  stable : ∀ number : Int,
    (ranked.filter fun item => item.1 = number) = items.filter fun item => item.1 = number

/-- Sorting ranks. The items with one number are sorted already, so they survive as a
sublist; as many of them are left as there were. -/
theorem isRanking_mergeSort (items : List (Int × α)) :
    IsRanking items (items.mergeSort fun left right => decide (right.1 ≤ left.1)) := by
  have transitive : ∀ a b c : Int × α,
      decide (b.1 ≤ a.1) = true → decide (c.1 ≤ b.1) = true → decide (c.1 ≤ a.1) = true := by
    intro a b c first second
    simp only [decide_eq_true_eq] at first second ⊢
    exact Int.le_trans second first
  have total : ∀ a b : Int × α, (decide (b.1 ≤ a.1) || decide (a.1 ≤ b.1)) = true := by
    intro a b
    simp only [Bool.or_eq_true, decide_eq_true_eq]
    exact Int.le_total b.1 a.1
  have permutation := List.mergeSort_perm items fun left right => decide (right.1 ≤ left.1)
  refine ⟨permutation, ?_, ?_⟩
  · exact (List.pairwise_mergeSort transitive total items).imp of_decide_eq_true
  · intro number
    have alike : (items.filter fun item => item.1 = number).Pairwise
        fun left right => decide (right.1 ≤ left.1) = true := by
      refine List.pairwise_of_forall_mem_list ?_
      intro left leftMember right rightMember
      have leftNumber : left.1 = number := by simpa using (List.mem_filter.mp leftMember).2
      have rightNumber : right.1 = number := by simpa using (List.mem_filter.mp rightMember).2
      simp [leftNumber, rightNumber]
    have kept := (List.sublist_mergeSort transitive total alike List.filter_sublist).filter
      fun item => decide (item.1 = number)
    rw [List.filter_filter] at kept
    simp only [Bool.and_self] at kept
    exact (kept.eq_of_length (permutation.filter _).length_eq.symm).symm

/-- The greatest number of a ranking stands at its head. -/
theorem IsRanking.head_max {items tail : List (Int × α)} {head item : Int × α}
    (ranking : IsRanking items (head :: tail)) (member : item ∈ items) : item.1 ≤ head.1 := by
  rcases List.mem_cons.mp (ranking.perm.mem_iff.mpr member) with rfl | later
  · exact Int.le_refl _
  · exact (List.pairwise_cons.mp ranking.descending).1 item later

/-- Two rankings of the same items agree. By induction on the ranking: both heads carry the
greatest number, and they are the first items with it. -/
theorem IsRanking.unique {items left right : List (Int × α)}
    (leftRanking : IsRanking items left) (rightRanking : IsRanking items right) :
    left = right := by
  induction left generalizing items right with
  | nil =>
      have itemsEmpty : items = [] := leftRanking.perm.nil_eq.symm
      subst itemsEmpty
      exact rightRanking.perm.eq_nil.symm
  | cons head tail inductionHypothesis =>
      cases right with
      | nil =>
          have itemsEmpty : items = [] := rightRanking.perm.nil_eq.symm
          subst itemsEmpty
          exact absurd leftRanking.perm.eq_nil (List.cons_ne_nil head tail)
      | cons rightHead rightTail =>
          have headMember : head ∈ items := leftRanking.perm.mem_iff.mp List.mem_cons_self
          have rightHeadMember : rightHead ∈ items :=
            rightRanking.perm.mem_iff.mp List.mem_cons_self
          have sameNumber : rightHead.1 = head.1 :=
            Int.le_antisymm (leftRanking.head_max rightHeadMember)
              (rightRanking.head_max headMember)
          have agree (number : Int) :
              ((head :: tail).filter fun item => item.1 = number) =
                (rightHead :: rightTail).filter fun item => item.1 = number :=
            (leftRanking.stable number).trans (rightRanking.stable number).symm
          have sameHead : head = rightHead := by
            have heads := agree head.1
            rw [List.filter_cons_of_pos (by simp),
              List.filter_cons_of_pos (by simp [sameNumber])] at heads
            exact (List.cons.inj heads).1
          subst sameHead
          have tailRanking : IsRanking tail tail :=
            ⟨List.Perm.refl tail, (List.pairwise_cons.mp leftRanking.descending).2,
              fun _ => rfl⟩
          have rightTailRanking : IsRanking tail rightTail := by
            refine ⟨?_, (List.pairwise_cons.mp rightRanking.descending).2, ?_⟩
            · exact (rightRanking.perm.trans leftRanking.perm.symm).cons_inv
            · intro number
              have numbers := agree number
              by_cases isHead : head.1 = number
              · rw [List.filter_cons_of_pos (by simp [isHead]),
                  List.filter_cons_of_pos (by simp [isHead])] at numbers
                exact (List.cons.inj numbers).2.symm
              · rw [List.filter_cons_of_neg (by simp [isHead]),
                  List.filter_cons_of_neg (by simp [isHead])] at numbers
                exact numbers.symm
          rw [inductionHypothesis tailRanking rightTailRanking]

end Rankings

/-! ## Ranked builds -/

/-- However the calls were ordered, a successful build has exactly one assembly. It reads the
ordinal of each occurrence in it once, in its order, and does nothing else to the counters. Its
sources are the one ranking of the assembly by these readings. -/
theorem build_ranks_assembly {early world : World} {installed : Registrations} {counters : Counters}
    {calls : List Call} {builder : Builder} {config : Config}
    (made : (Builder.new early).callAll calls = .ok builder)
    (built : (builder.build installed world counters).result = .ok config) :
    ∃ assembly ordinals ranked,
      IsAssembly ((Builder.new early).staged calls) installed world assembly ∧
        (∀ other,
          IsAssembly ((Builder.new early).staged calls) installed world other →
            other = assembly) ∧
          Readings world counters assembly ordinals
              (builder.build installed world counters).counters ∧
            IsRanking (ordinals.zip assembly) ranked ∧
              (∀ other, IsRanking (ordinals.zip assembly) other → other = ranked) ∧
                config.sources = ranked.map Prod.snd := by
  obtain ⟨_, rfl⟩ := callAll_eq_ok_iff.mp made
  obtain ⟨assembly, registry, assembled, completed, rfl⟩ := build_result_eq_ok_iff.mp built
  obtain ⟨ordinals, readings, pairs⟩ := readOrdinals_readings world counters assembly
  have ranking := isRanking_mergeSort (ordinals.zip assembly)
  refine ⟨assembly, ordinals, _, assemble_eq_ok_iff.mp assembled, ?_, ?_, ranking, ?_, ?_⟩
  · intro other isAssembly
    have otherAssembled := assemble_eq_ok_iff.mpr isAssembly
    exact Except.ok.inj (otherAssembled.symm.trans assembled)
  · rw [build_counters assembled completed]
    exact readings
  · intro other otherRanking
    exact otherRanking.unique ranking
  · rw [← pairs]
    rfl

/-- Two occurrences of one counting source among sources from three origins. -/
theorem build_ranks_assembly_counting :
    let world : World := ⟨⟨"<cwd>", []⟩, .empty, .empty⟩
    let catalog : Catalog :=
      ⟨[.fixed "found" 300 .empty], [.fixed [.fixed "provided" 200 .empty]], []⟩
    let calls : List Call :=
      [.includeDiscoveredSources, .addSources [.counting "counter" 0 150, .plain "plain" .empty],
        .inContext .empty, .includeDefaults, .addSources [.counting "counter" 0 150],
        .discoverIn (.listed catalog)]
    ∃ builder config,
      (Builder.new world).callAll calls = .ok builder ∧
        (builder.build .empty world ⟨1, [100]⟩).result = .ok config ∧
          ∃ assembly ordinals ranked,
            IsAssembly ((Builder.new world).staged calls) .empty world assembly ∧
              (∀ other, IsAssembly ((Builder.new world).staged calls) .empty world other →
                other = assembly) ∧
                Readings world ⟨1, [100]⟩ assembly ordinals
                    (builder.build .empty world ⟨1, [100]⟩).counters ∧
                  IsRanking (ordinals.zip assembly) ranked ∧
                    (∀ other, IsRanking (ordinals.zip assembly) other → other = ranked) ∧
                      config.sources = ranked.map Prod.snd :=
  ⟨_, _, rfl, rfl, build_ranks_assembly rfl rfl⟩

end LayeredConfig.Builder
