import LayeredConfig.Proofs.BoundLookups

/-!
A source lists its properties and gives single ones. The two agree, except that the environment
also answers keys that it does not list: those that name a variable once they are mapped to the
characters that names of variables are made of.
-/

namespace LayeredConfig

namespace Source

/-- A key without an equals sign is answered by the environment if it is listed there or if one of
the names it is mapped to is. -/
theorem environment_answers_iff
    {world : World} (proper : world.environment.Proper) {key : String}
    (plain : '=' ∉ key.toList) :
    (environment.value? world key).isSome ↔
      key ∈ world.environment.texts.names ∨
        ∃ mapped ∈ (environmentNames key).tail, mapped ∈ world.environment.texts.names := by
  constructor
  · intro answered
    obtain ⟨answer, given⟩ := Option.isSome_iff_exists.mp answered
    by_cases listed : key ∈ world.environment.texts.names
    · exact .inl listed
    · rw [← NameMap.find?_isSome, Option.not_isSome_iff_eq_none] at listed
      obtain ⟨mapped, member, found⟩ := exists_mapped plain listed given
      exact .inr ⟨mapped, member, NameMap.find?_isSome.mp (by rw [found]; rfl)⟩
  · intro named
    -- whichever of the names is listed, asking for it finds its text, and the key is answered
    have among : ∃ name ∈ environmentNames key, name ∈ world.environment.texts.names := by
      obtain listed | ⟨mapped, member, listed⟩ := named
      · exact ⟨key, List.mem_cons_self, listed⟩
      · exact ⟨mapped, List.mem_of_mem_tail member, listed⟩
    obtain ⟨name, member, listed⟩ := among
    obtain ⟨text, found⟩ := Option.isSome_iff_exists.mp (NameMap.find?_isSome.mpr listed)
    rw [value?, List.findSome?_isSome_iff]
    exact ⟨name, member, by rw [Environment.text?_of_find?_texts proper found]; rfl⟩

end Source

namespace Environment

/-- A name stands for a variable whose value is a text. -/
def HasText (environment : Environment) (name : String) : Prop :=
  ∃ bytes, environment.find? name = some bytes ∧ bytes.IsValidUTF8

theorem mem_names_texts_iff
    {environment : Environment} {name : String} :
    name ∈ environment.texts.names ↔ environment.HasText name := by
  rw [← NameMap.find?_isSome, Option.isSome_iff_exists]
  simp only [find?_texts_eq_some_iff, HasText]
  constructor
  · intro found
    obtain ⟨text, bytes, held, decoded⟩ := found
    refine ⟨bytes, held, ?_⟩
    by_contra invalid
    rw [String.fromUTF8?, dif_neg invalid] at decoded
    cases decoded
  · intro found
    obtain ⟨bytes, held, valid⟩ := found
    exact ⟨_, bytes, held, dif_pos valid⟩

instance (environment : Environment) (name : String) : Decidable (environment.HasText name) :=
  decidable_of_iff _ mem_names_texts_iff

end Environment

namespace Config

variable {config : Config} {world : World} {key : String}

theorem rawValue?_isSome_iff :
    (config.rawValue? world key).isSome ↔
      ∃ source ∈ config.sources, (source.value? world key).isSome := by
  rw [rawValue?, List.findSome?_isSome_iff]

theorem rawValue?_isSome_of_mem
    (uses : ∀ source ∈ config.sources, source.UsesListing)
    (proper : world.environment.Proper) (known : key ∈ config.propertyNames world) :
    (config.rawValue? world key).isSome := by
  obtain ⟨source, member, lists⟩ := mem_propertyNames.mp known
  obtain ⟨value, listed⟩ := Option.isSome_iff_exists.mp (NameMap.find?_isSome.mpr lists)
  have answered := (uses source member).value?_of_find? proper listed
  exact rawValue?_isSome_iff.mpr ⟨source, member, by rw [answered]; rfl⟩

/-- An answer of another source than the environment is listed. -/
theorem mem_propertyNames_of_value?
    {source : Source} (uses : source.UsesListing) (member : source ∈ config.sources)
    (live : source ≠ .environment) (answered : (source.value? world key).isSome) :
    key ∈ config.propertyNames world := by
  rw [uses.value?_eq_find? live] at answered
  exact mem_propertyNames.mpr ⟨source, member, NameMap.find?_isSome.mp answered⟩

theorem rawValue?_isSome_iff_of_environment
    (uses : ∀ source ∈ config.sources, source.UsesListing)
    (proper : world.environment.Proper) (live : .environment ∈ config.sources)
    (plain : '=' ∉ key.toList) :
    (config.rawValue? world key).isSome ↔
      key ∈ config.propertyNames world ∨
        ∃ mapped ∈ (Source.environmentNames key).tail, world.environment.HasText mapped := by
  simp only [← Environment.mem_names_texts_iff]
  constructor
  · intro defined
    obtain ⟨source, member, answered⟩ := rawValue?_isSome_iff.mp defined
    by_cases environment : source = .environment
    · rw [environment] at answered
      obtain listed | mapped := (Source.environment_answers_iff proper plain).mp answered
      · exact .inl (mem_propertyNames.mpr ⟨.environment, live, listed⟩)
      · exact .inr mapped
    · exact .inl (mem_propertyNames_of_value? (uses source member) member environment answered)
  · intro reason
    obtain known | mapped := reason
    · exact rawValue?_isSome_of_mem uses proper known
    · have answered := (Source.environment_answers_iff proper plain).mpr (.inr mapped)
      exact rawValue?_isSome_iff.mpr ⟨.environment, live, answered⟩

/-- In the world of a process a source gives every property that it lists, and one other than the
environment gives nothing else. So a configuration has a value for every name that it lists.
Without the environment these are all its keys, and with it there are besides them exactly those
keys that name a variable with a text once all characters other than ASCII letters and digits are
replaced by underscores, or once the result is also put in capitals. -/
theorem lookups_match_listings
    {world : World} (proper : world.environment.Proper) :
    (∀ source : Source, source.UsesListing →
        (∀ key value, (source.properties world).find? key = some value →
            source.value? world key = some value) ∧
          (source ≠ .environment → ∀ key value, source.value? world key = some value →
            (source.properties world).find? key = some value)) ∧
      ∀ config : Config, (∀ source ∈ config.sources, source.UsesListing) →
        (∀ key ∈ config.propertyNames world, (config.rawValue? world key).isSome) ∧
          (.environment ∉ config.sources →
            ∀ key, (config.rawValue? world key).isSome → key ∈ config.propertyNames world) ∧
          (.environment ∈ config.sources → ∀ key, '=' ∉ key.toList →
            ((config.rawValue? world key).isSome ↔
              key ∈ config.propertyNames world ∨
                world.environment.HasText (Source.sanitize key) ∨
                  world.environment.HasText
                    (String.ofList (Text.asciiUpper (Source.sanitize key).toList)))) := by
  refine ⟨?_, ?_⟩
  · intro source uses
    refine ⟨fun key value => uses.value?_of_find? proper, ?_⟩
    intro live key value answered
    rw [← uses.value?_eq_find? live, answered]
  · intro config uses
    refine ⟨fun key => rawValue?_isSome_of_mem uses proper, ?_, ?_⟩
    · intro absent key defined
      obtain ⟨source, member, answered⟩ := rawValue?_isSome_iff.mp defined
      have other : source ≠ .environment := by
        intro environment
        rw [environment] at member
        exact absent member
      exact mem_propertyNames_of_value? (uses source member) member other answered
    · intro live key plain
      rw [rawValue?_isSome_iff_of_environment uses proper live plain]
      simp [Source.environmentNames]

/-- A key that is answered under a mapped name without being listed, and a variable that is no
text and so is neither. -/
theorem lookups_match_listings_mapped :
    let world : World :=
      ⟨⟨"<cwd>", []⟩, ⟨[("SERVER_PORT", "80".toUTF8), ("RAW", ⟨#[0xFF]⟩)], by decide⟩, .empty⟩
    let config : Config := ⟨[.environment, .fixed "below" 100 (.ofList [("name", "n")])], []⟩
    world.environment.Proper ∧
      (∀ source ∈ config.sources, source.UsesListing) ∧
        ("server.port" ∉ config.propertyNames world ∧
            (config.rawValue? world "server.port").isSome) ∧
          ¬(config.rawValue? world "RAW").isSome := by
  intro world config
  have proper : world.environment.Proper := by
    decide
  have uses : ∀ source ∈ config.sources, source.UsesListing := by
    simp [config, Source.UsesListing]
  have lookups := ((lookups_match_listings proper).2 config uses).2.2 List.mem_cons_self
  refine ⟨proper, uses, ⟨?_, ?_⟩, ?_⟩
  · rw [mem_propertyNames]
    decide +kernel
  · rw [lookups "server.port" (by decide)]
    exact .inr (.inr (by decide +kernel))
  · rw [lookups "RAW" (by decide), mem_propertyNames]
    decide +kernel

end Config

end LayeredConfig
