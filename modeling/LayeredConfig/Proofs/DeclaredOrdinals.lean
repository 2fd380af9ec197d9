import LayeredConfig.Proofs.Precedence
import LayeredConfig.Proofs.WrittenNumbers

/-!
A source that ranks itself does so by the number of thirty-two bits that its own property gives, and
by its kind wherever that property gives none: a text that denotes no number, or one that is too
large, never counts as another number. A build ranks by these ordinals, and the property stays one
like any other.
-/

namespace LayeredConfig

/-- The text gives an ordinal: it denotes a number of thirty-two bits between blanks. -/
def DeclaresOrdinal (text : String) (n : Int) : Prop :=
  (∃ before number after, text.toList = before ++ number ++ after ∧
    (∀ c ∈ before, Text.isBlank c = true) ∧ (∀ c ∈ after, Text.isBlank c = true) ∧
      Numeral.Denotes number n) ∧
    -2 ^ 31 ≤ n ∧ n < 2 ^ 31

namespace Source

theorem readOrdinal?_eq_some_iff
    {text : String} {n : Int} :
    readOrdinal? text = some n ↔ DeclaresOrdinal text n := by
  have read : readOrdinal? text = some n ↔
      Numeral.readWhole 10 ordinalBounds.1 ordinalBounds.2 (Text.trim text.toList) = .ok n := by
    rw [readOrdinal?]
    cases Numeral.readWhole 10 ordinalBounds.1 ordinalBounds.2 (Text.trim text.toList) <;> simp
  rw [read, Numeral.readWhole_eq_ok_iff (by decide) (by decide), Numeral.denotes_trim_iff,
    DeclaresOrdinal]
  apply and_congr_right
  intro _
  simp only [ordinalBounds]
  omega

theorem readOrdinal?_eq_none_iff
    {text : String} :
    readOrdinal? text = none ↔ ∀ n, ¬ DeclaresOrdinal text n := by
  simp only [← readOrdinal?_eq_some_iff, Option.eq_none_iff_forall_ne_some, ne_eq]

end Source

instance (text : String) (n : Int) : Decidable (DeclaresOrdinal text n) :=
  decidable_of_iff _ Source.readOrdinal?_eq_some_iff

namespace Source

/-- A source of a kind that ranks itself, or one of a program's own that leaves its ordinal to the
common rule. -/
def RanksItself : Source → Prop
  | .fixed _ _ _ => False
  | .counting _ _ _ => False
  | .custom name properties value? ordinal =>
    ∀ world cells,
      ordinal world cells = ((custom name properties value? ordinal).ownOrdinal world, cells)
  | _ => True

/-- Where a source ranks: at the number that it declares, or else at the default of its kind. -/
inductive RanksAt (world : World) (source : Source) : Int → Prop
  | declared {text : String} {n : Int} :
      source.value? world "config_ordinal" = some text → DeclaresOrdinal text n →
        RanksAt world source n
  | byKind :
      (∀ text n, source.value? world "config_ordinal" = some text → ¬ DeclaresOrdinal text n) →
        RanksAt world source source.defaultOrdinal

section Ordinals

variable {world : World} {source : Source} {n : Int}

theorem RanksItself.ordinal_eq
    (ranksItself : source.RanksItself) (counters : Counters) :
    source.ordinal world counters = (source.ownOrdinal world, counters) := by
  cases source with
  | fixed name ordinal properties =>
      cases ranksItself
  | counting name counter step =>
      cases ranksItself
  | custom name properties value? ordinal =>
      rw [Source.ordinal, ranksItself world counters.cells]
  | _ =>
      rfl

theorem ranksAt_ownOrdinal
    (world : World) (source : Source) :
    source.RanksAt world (source.ownOrdinal world) := by
  rw [ownOrdinal]
  cases given : (source.value? world ordinalKey).bind readOrdinal? with
  | none =>
      apply RanksAt.byKind
      intro text n own
      rw [ordinalKey, own, Option.bind_some] at given
      exact readOrdinal?_eq_none_iff.mp given n
  | some n =>
      obtain ⟨text, own, read⟩ := Option.bind_eq_some_iff.mp given
      exact RanksAt.declared own (readOrdinal?_eq_some_iff.mp read)

theorem ranksAt_iff :
    source.RanksAt world n ↔ source.ownOrdinal world = n := by
  constructor
  · intro ranks
    rw [ownOrdinal, ordinalKey]
    cases ranks with
    | declared own declares =>
        rw [own, Option.bind_some, readOrdinal?_eq_some_iff.mpr declares, Option.getD_some]
    | byKind undeclared =>
        have none : (source.value? world "config_ordinal").bind readOrdinal? = none := by
          rw [Option.bind_eq_none_iff]
          intro text own
          exact readOrdinal?_eq_none_iff.mpr fun n => undeclared text n own
        rw [none, Option.getD_none]
  · intro same
    rw [← same]
    exact ranksAt_ownOrdinal world source

theorem RanksAt.unique
    {m : Int} (ranks : source.RanksAt world n) (alsoRanks : source.RanksAt world m) :
    n = m := by
  rw [← ranksAt_iff.mp ranks]
  exact ranksAt_iff.mp alsoRanks

theorem RanksItself.ordinal_eq_iff
    (ranksItself : source.RanksItself) {counters after : Counters} :
    source.ordinal world counters = (n, after) ↔ source.RanksAt world n ∧ after = counters := by
  rw [ranksItself.ordinal_eq, Prod.mk.injEq, ranksAt_iff, eq_comm (a := counters)]

theorem defaultOrdinal_of_ne
    (notEnvironment : source ≠ .environment) (notSystem : source ≠ .system) :
    source.defaultOrdinal = 100 := by
  cases source with
  | environment =>
      exact absurd rfl notEnvironment
  | system =>
      exact absurd rfl notSystem
  | _ =>
      rfl

end Ordinals

end Source

namespace Builder

variable {world : World}

/-- Sources that rank themselves are read without a trace. -/
theorem readOrdinals_of_ranksItself
    {sources : List Source} (rankThemselves : ∀ source ∈ sources, source.RanksItself)
    (counters : Counters) :
    ∃ ordinals, List.Forall₂ (Source.RanksAt world) sources ordinals ∧
      readOrdinals world counters sources = (ordinals.zip sources, counters) := by
  induction sources with
  | nil =>
      exact ⟨[], List.Forall₂.nil, rfl⟩
  | cons source rest inductionHypothesis =>
      rw [List.forall_mem_cons] at rankThemselves
      obtain ⟨ordinals, ranks, read⟩ := inductionHypothesis rankThemselves.2
      refine ⟨source.ownOrdinal world :: ordinals, ?_, ?_⟩
      · exact List.Forall₂.cons (source.ranksAt_ownOrdinal world) ranks
      · simp only [readOrdinals, rankThemselves.1.ordinal_eq, read, List.zip_cons_cons]

/-- A source that ranks itself reports the number of thirty-two bits that its own property gives,
and otherwise the default of its kind. A build of such sources, which succeeds if all of them are
explicit, ranks them by these numbers. The property is looked up like any other, whether it gives a
number or not: its value is that of the foremost source that has one. -/
theorem build_ranks_by_declared_ordinals (world : World) :
    (Source.environment.defaultOrdinal = 300 ∧ Source.system.defaultOrdinal = 400 ∧
      ∀ source : Source, source ≠ .environment → source ≠ .system →
        source.defaultOrdinal = 100) ∧
    (∀ source : Source, source.RanksItself → ∀ counters,
      (∀ text n, source.value? world "config_ordinal" = some text → DeclaresOrdinal text n →
        source.ordinal world counters = (n, counters)) ∧
        ((∀ text n, source.value? world "config_ordinal" = some text →
            ¬ DeclaresOrdinal text n) →
          source.ordinal world counters = (source.defaultOrdinal, counters))) ∧
    (∀ (builder : Builder) installed counters assembly config,
      IsAssembly builder installed world assembly →
        (∀ source ∈ assembly, source.RanksItself) →
          (builder.build installed world counters).result = .ok config →
            ∃ ordinals, List.Forall₂ (Source.RanksAt world) assembly ordinals ∧
              (∃ ranked, IsRanking (ordinals.zip assembly) ranked ∧
                config.sources = ranked.map Prod.snd) ∧
                ∀ now text, config.rawValue? now "config_ordinal" = some text ↔
                  ∃ leader, Foremost Prod.fst
                      (answering now "config_ordinal" (ordinals.zip assembly)) leader ∧
                    leader.2.value? now "config_ordinal" = some text) ∧
    ∀ early installed counters sources,
      IsAssembly ((Builder.new early).addSources sources) installed world sources ∧
        ∃ config, (((Builder.new early).addSources sources).build installed world counters).result =
          .ok config := by
  refine ⟨⟨rfl, rfl, fun _ => Source.defaultOrdinal_of_ne⟩, ?_, ?_, ?_⟩
  · intro source ranksItself counters
    constructor
    · intro text n own declares
      apply ranksItself.ordinal_eq_iff.mpr
      exact ⟨Source.RanksAt.declared own declares, rfl⟩
    · intro undeclared
      apply ranksItself.ordinal_eq_iff.mpr
      exact ⟨Source.RanksAt.byKind undeclared, rfl⟩
  · intro builder installed counters assembly config isAssembly rankThemselves built
    have assembled := assemble_eq_ok_iff.mpr isAssembly
    obtain ⟨sources, registry, sourcesAssembled, -, rfl⟩ := build_result_eq_ok_iff.mp built
    obtain rfl := Except.ok.inj (assembled.symm.trans sourcesAssembled)
    obtain ⟨ordinals, ranks, read⟩ := readOrdinals_of_ranksItself rankThemselves counters
    have ranking := isRanking_mergeSort (ordinals.zip assembly)
    have ordered : rank (readOrdinals world counters assembly).1 = _ :=
      congrArg (fun reading => rank reading.1) read
    refine ⟨ordinals, ranks, ⟨_, ranking, ordered⟩, ?_⟩
    intro now text
    exact rawValue?_eq_some_iff ranking ordered
  · intro early installed counters sources
    have assembled : ((Builder.new early).addSources sources).assemble installed world =
        .ok sources :=
      assemble_explicit rfl rfl
    exact ⟨assemble_eq_ok_iff.mp assembled, _,
      build_result_eq_ok_iff.mpr ⟨sources, _, assembled, rfl, rfl⟩⟩

/-- A source that declares too large a number ranks above one that declares a negative number, and
what it declares is the value of the property. -/
theorem build_ranks_by_declared_ordinals_too_large :
    let world : World := ⟨⟨"<cwd>", []⟩, .empty, .empty⟩
    let below : Source := .plain "below" ⟨[("config_ordinal", "\t-007\u3000")], by decide⟩
    let large : Source := .plain "large" ⟨[("config_ordinal", "2147483648")], by decide⟩
    below.ordinal world .empty = (-7, .empty) ∧
      large.ordinal world .empty = (100, .empty) ∧
        ∃ config,
          (((Builder.new world).addSources [below, large]).build .empty world .empty).result =
              .ok config ∧
            config.rawValue? world "config_ordinal" = some "2147483648" := by
  intro world below large
  obtain ⟨-, ordinal, ranking, explicit⟩ := build_ranks_by_declared_ordinals world
  have tooLarge : ∀ text n, large.value? world "config_ordinal" = some text →
      ¬ DeclaresOrdinal text n := by
    intro text n own
    obtain rfl := Option.some.inj own
    apply Source.readOrdinal?_eq_none_iff.mp
    decide +kernel
  have declares : DeclaresOrdinal "\t-007\u3000" (-7) := by
    decide +kernel
  have belowOrdinal := (ordinal below trivial .empty).1 _ (-7) rfl declares
  have largeOrdinal := (ordinal large trivial .empty).2 tooLarge
  obtain ⟨isAssembly, config, built⟩ := explicit world .empty .empty [below, large]
  have rankThemselves : ∀ source ∈ [below, large], source.RanksItself := by
    simp [below, large, Source.RanksItself]
  obtain ⟨ordinals, ranks, -, raw⟩ := ranking _ _ _ _ config isAssembly rankThemselves built
  refine ⟨belowOrdinal, largeOrdinal, config, built, (raw world _).mpr ?_⟩
  cases ranks with
  | @cons _ first _ _ firstRanks others =>
      cases others with
      | @cons _ second _ _ secondRanks none =>
          cases none
          obtain rfl := firstRanks.unique (Source.RanksAt.declared rfl declares)
          obtain rfl := secondRanks.unique (Source.RanksAt.byKind tooLarge)
          exact ⟨(100, large), ⟨[(-7, below)], [], rfl, by simp, by simp⟩, rfl⟩

end Builder

end LayeredConfig
