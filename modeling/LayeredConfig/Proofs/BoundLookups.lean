import LayeredConfig.Proofs.LastWord
import LayeredConfig.Proofs.Preparation
import LayeredConfig.Proofs.SortedNames
import LayeredConfig.Proofs.Variables

/-!
# Looking up and binding

A single value is looked for in one source after the other, and a tree is made of what all
sources list. Both come to the first source that lists a name. They part company only where the
environment, which is asked for variables under further names, stands above that source and
answers a name without listing it.
-/

namespace LayeredConfig

namespace Source

/-- A source of the library, or one of a program's own that looks a key up in its properties. -/
def UsesListing : Source → Prop
  | .custom _ properties value? _ =>
    ∀ world key, value? world key = (properties world).find? key
  | _ => True

theorem usesListing_of_bundled
    {source : Source} (bundled : source.isCustom = false) :
    source.UsesListing := by
  cases source with
  | custom name properties value? ordinal =>
      cases bundled
  | _ =>
      trivial

theorem UsesListing.value?_eq_find?
    {source : Source} (uses : source.UsesListing) (live : source ≠ .environment)
    (world : World) (key : String) :
    source.value? world key = (source.properties world).find? key := by
  cases source with
  | custom name properties value? ordinal =>
      exact uses world key
  | environment =>
      exact absurd rfl live
  | _ =>
      rfl

theorem value?_eq_find?
    {source : Source} (bundled : source.isCustom = false) (live : source ≠ .environment)
    (world : World) (key : String) :
    source.value? world key = (source.properties world).find? key :=
  (usesListing_of_bundled bundled).value?_eq_find? live world key

theorem environment_value?_of_find?
    {world : World} (proper : world.environment.Proper) {name value : String}
    (listed : world.environment.texts.find? name = some value) :
    environment.value? world name = some value := by
  have own := Environment.text?_of_find?_texts proper listed
  rw [value?, environmentNames, List.findSome?_cons, own]

theorem UsesListing.value?_of_find?
    {source : Source} (uses : source.UsesListing) {world : World}
    (proper : world.environment.Proper) {name value : String}
    (listed : (source.properties world).find? name = some value) :
    source.value? world name = some value := by
  by_cases live : source = .environment
  · rw [live] at listed ⊢
    exact environment_value?_of_find? proper listed
  · rw [uses.value?_eq_find? live, listed]

theorem value?_of_find?
    {source : Source} (bundled : source.isCustom = false) {world : World}
    (proper : world.environment.Proper) {name value : String}
    (listed : (source.properties world).find? name = some value) :
    source.value? world name = some value :=
  (usesListing_of_bundled bundled).value?_of_find? proper listed

private theorem toUpper_ne_equals
    {c : Char} (different : c ≠ '=') :
    c.toUpper ≠ '=' := by
  unfold Char.toUpper
  split
  · rename_i lower
    intro same
    have low : 97 ≤ c.toNat := UInt32.le_iff_toNat_le.mp lower.1
    have high : c.toNat ≤ 122 := UInt32.le_iff_toNat_le.mp lower.2
    have number := congrArg Char.toNat same
    have code : ('=').toNat = 61 := by decide
    have above : ('A'.val - 'a'.val).toNat = 2 ^ 32 - 32 := by decide
    have own : c.val.toNat = c.toNat := rfl
    rw [code, Char.toNat, UInt32.toNat_add, above, own] at number
    omega
  · exact different

theorem equals_not_mem_sanitize
    (key : String) :
    '=' ∉ (sanitize key).toList := by
  rw [sanitize, String.toList_ofList, List.mem_map]
  rintro ⟨original, _, same⟩
  split at same
  · rename_i alphanumeric
    rw [same] at alphanumeric
    exact absurd alphanumeric (by decide)
  · exact absurd same (by decide)

theorem equals_not_mem_mapped
    {key mapped : String} (member : mapped ∈ (environmentNames key).tail) :
    '=' ∉ mapped.toList := by
  simp only [environmentNames, List.tail_cons, List.mem_cons, List.not_mem_nil,
    or_false] at member
  rcases member with rfl | rfl
  · exact equals_not_mem_sanitize key
  · rw [String.toList_ofList, Text.asciiUpper, List.mem_map]
    rintro ⟨original, present, same⟩
    have different : original ≠ '=' := by
      rintro rfl
      exact equals_not_mem_sanitize key present
    exact toUpper_ne_equals different same

theorem find?_texts_of_text?
    {environment : Environment} {asked text : String} (plain : '=' ∉ asked.toList)
    (answered : environment.text? asked = some text) :
    environment.texts.find? asked = some text := by
  have noEquals : asked.toList.contains '=' = false := by
    simpa using plain
  rw [Environment.text?, Environment.bytes?, noEquals] at answered
  rw [Environment.texts, NameMap.find?_filterMap]
  split at answered
  · cases answered
  · exact answered

/-- A key without an equals sign that the environment answers but does not list is the key of a
variable under one of the mapped names. -/
theorem exists_mapped
    {world : World} {key answer : String} (plain : '=' ∉ key.toList)
    (unlisted : world.environment.texts.find? key = none)
    (answered : environment.value? world key = some answer) :
    ∃ mapped ∈ (environmentNames key).tail,
      world.environment.texts.find? mapped = some answer := by
  -- under the key itself nothing is found, so that a mapped name has given the answer
  have silent : world.environment.text? key = none := by
    cases own : world.environment.text? key with
    | none =>
        rfl
    | some text =>
        have listed := find?_texts_of_text? plain own
        rw [unlisted] at listed
        cases listed
  rw [value?, environmentNames, List.findSome?_cons, silent] at answered
  obtain ⟨mapped, member, its⟩ := List.exists_of_findSome?_eq_some answered
  exact ⟨mapped, member, find?_texts_of_text? (equals_not_mem_mapped member) its⟩

end Source

namespace Config

theorem exists_first_lister
    {config : Config} {world : World} {name : String}
    (known : name ∈ config.propertyNames world) :
    ∃ before source after value,
      config.sources = before ++ source :: after ∧
        (∀ earlier ∈ before, (earlier.properties world).find? name = none) ∧
          (source.properties world).find? name = some value := by
  obtain ⟨lister, present, lists⟩ := mem_propertyNames.mp known
  have found : (config.sources.find? fun source =>
      ((source.properties world).find? name).isSome).isSome := by
    rw [List.find?_isSome]
    exact ⟨lister, present, NameMap.find?_isSome.mpr lists⟩
  obtain ⟨source, first⟩ := Option.isSome_iff_exists.mp found
  obtain ⟨own, before, after, split, silent⟩ := List.find?_eq_some_iff_append.mp first
  obtain ⟨value, held⟩ := Option.isSome_iff_exists.mp own
  refine ⟨before, source, after, value, split, ?_, held⟩
  intro earlier member
  simpa using silent earlier member

section Unlisted

variable {sources : List Source} {world : World} {name : String}

/-- Of sources that do not list a name only the environment can answer it. -/
theorem value?_of_unlisted
    (bundled : ∀ source ∈ sources, source.isCustom = false)
    (unlisted : ∀ source ∈ sources, (source.properties world).find? name = none)
    {source : Source} (member : source ∈ sources) {answer : String}
    (answered : source.value? world name = some answer) :
    source = .environment := by
  by_contra other
  rw [Source.value?_eq_find? (bundled source member) other, unlisted source member] at answered
  cases answered

theorem findSome?_of_silent
    (bundled : ∀ source ∈ sources, source.isCustom = false)
    (unlisted : ∀ source ∈ sources, (source.properties world).find? name = none)
    (silent : .environment ∈ sources → Source.environment.value? world name = none) :
    (sources.findSome? fun source => source.value? world name) = none := by
  rw [List.findSome?_eq_none_iff]
  intro source member
  cases answered : source.value? world name with
  | none =>
      rfl
  | some answer =>
      have live := value?_of_unlisted bundled unlisted member answered
      rw [live] at member answered
      rw [silent member] at answered
      cases answered

theorem findSome?_of_live
    (bundled : ∀ source ∈ sources, source.isCustom = false)
    (unlisted : ∀ source ∈ sources, (source.properties world).find? name = none)
    (live : .environment ∈ sources) {answer : String}
    (answered : Source.environment.value? world name = some answer) :
    (sources.findSome? fun source => source.value? world name) = some answer := by
  have speaks : (sources.findSome? fun source => source.value? world name).isSome := by
    rw [List.findSome?_isSome_iff]
    exact ⟨.environment, live, by rw [answered]; rfl⟩
  obtain ⟨given, said⟩ := Option.isSome_iff_exists.mp speaks
  obtain ⟨source, member, its⟩ := List.exists_of_findSome?_eq_some said
  have same := value?_of_unlisted bundled unlisted member its
  rw [same, answered] at its
  rw [said, ← its]

end Unlisted

/-! ## Lookups beside the tree -/

/-- Where no other name gets in the way of a name, its place in the tree has what the first
source that lists it says. -/
theorem textAt?_merge_of_apart
    {sources : List Source} {world : World} {listings : List (List (String × String))}
    {name : String} {path : List String}
    (listed : List.Forall₂
      (fun source listing => listing.Perm (source.properties world).entries) sources listings)
    (place : Tree.segments? name = some path)
    (apart : ∀ source ∈ sources, ∀ other ∈ (source.properties world).names,
      Tree.Touches other path → other = name) :
    (Tree.merge listings).textAt? path =
      sources.findSome? fun source => (source.properties world).find? name := by
  rw [Tree.textAt?_merge]
  induction listed with
  | nil =>
      rfl
  | cons sourceListed _ inductionHypothesis =>
      obtain ⟨sourceApart, restApart⟩ := List.forall_mem_cons.mp apart
      have own := Tree.lastWord?_eq_find? sourceListed place sourceApart
      rw [List.findSome?_cons, List.findSome?_cons, own]
      cases NameMap.find? _ name with
      | none => exact inductionHypothesis restApart
      | some value => rfl

/-- The first source that lists a name decides its place in the tree, if no other name gets in
its way, and gives it its value as well. Only an environment above that source, in which the
name is not listed, can give it another one: that of a variable with a mapped name. -/
theorem lookup_beside_tree
    {config : Config} {world : World} {listings : List (List (String × String))}
    {name : String} {path : List String}
    (bundled : ∀ source ∈ config.sources, source.isCustom = false)
    (proper : world.environment.Proper)
    (listed : List.Forall₂
      (fun source listing => listing.Perm (source.properties world).entries)
      config.sources listings)
    (known : name ∈ config.propertyNames world)
    (place : Tree.segments? name = some path)
    (apart : ∀ other ∈ config.propertyNames world, Tree.Touches other path → other = name) :
    ∃ before source after value,
      config.sources = before ++ source :: after ∧
        (∀ earlier ∈ before, (earlier.properties world).find? name = none) ∧
          (source.properties world).find? name = some value ∧
            source.value? world name = some value ∧
              (Tree.merge listings).at? path = some (.leaf value) ∧
                ((.environment ∈ before → Source.environment.value? world name = none) →
                  config.rawValue? world name = some value) ∧
                  (∀ answer, .environment ∈ before →
                    Source.environment.value? world name = some answer →
                      config.rawValue? world name = some answer ∧
                        ('=' ∉ name.toList →
                          ∃ mapped ∈ (Source.environmentNames name).tail,
                            world.environment.texts.find? mapped = some answer)) := by
  obtain ⟨before, source, after, value, split, unlisted, held⟩ := exists_first_lister known
  have beforeBundled : ∀ earlier ∈ before, earlier.isCustom = false := by
    intro earlier member
    apply bundled
    rw [split]
    exact List.mem_append_left _ member
  have own : source.value? world name = some value := by
    refine Source.value?_of_find? (bundled source ?_) proper held
    rw [split]
    exact List.mem_append_right _ List.mem_cons_self
  have raw : config.rawValue? world name =
      (before.findSome? fun earlier => earlier.value? world name).or (some value) := by
    rw [rawValue?, split, List.findSome?_append, List.findSome?_cons, own]
  refine ⟨before, source, after, value, split, unlisted, held, own, ?_, ?_, ?_⟩
  · have sourcesApart : ∀ lister ∈ config.sources, ∀ other ∈ (lister.properties world).names,
        Tree.Touches other path → other = name := by
      intro lister member other lists
      exact apart other (mem_propertyNames.mpr ⟨lister, member, lists⟩)
    have silent : (before.findSome? fun earlier => (earlier.properties world).find? name) = none :=
      List.findSome?_eq_none_iff.mpr unlisted
    rw [← Tree.textAt?_eq_some_iff, textAt?_merge_of_apart listed place sourcesApart, split,
      List.findSome?_append, silent, List.findSome?_cons, held]
    rfl
  · intro silent
    rw [raw, findSome?_of_silent beforeBundled unlisted silent]
    rfl
  · intro answer live answered
    rw [raw, findSome?_of_live beforeBundled unlisted live answered]
    refine ⟨rfl, ?_⟩
    intro plain
    exact Source.exists_mapped plain (unlisted .environment live) answered

/-- A name that two sources list, and below the environment one that is answered under a mapped
name. -/
theorem lookup_beside_tree_ranked :
    let world : World :=
      ⟨⟨"<cwd>", []⟩, ⟨[("SERVER_PORT", "80".toUTF8)], by decide⟩, .empty⟩
    let upper : NameMap String := ⟨[("server.port", "90"), ("name", "upper")], by decide⟩
    let lower : NameMap String := ⟨[("name", "lower"), ("server.host", "h")], by decide⟩
    let config : Config := ⟨[.environment, .fixed "upper" 200 upper, .plain "lower" lower], []⟩
    let listings :=
      [world.environment.texts.entries, upper.entries.reverse, lower.entries.reverse]
    let name := "server.port"
    let path := ["server", "port"]
    (∀ source ∈ config.sources, source.isCustom = false) ∧
      world.environment.Proper ∧
        List.Forall₂ (fun source listing => listing.Perm (source.properties world).entries)
            config.sources listings ∧
          name ∈ config.propertyNames world ∧
            Tree.segments? name = some path ∧
              (∀ other ∈ config.propertyNames world,
                  Tree.Touches other path → other = name) ∧
                ∃ before source after value,
                  config.sources = before ++ source :: after ∧
                    (∀ earlier ∈ before, (earlier.properties world).find? name = none) ∧
                      (source.properties world).find? name = some value ∧
                        source.value? world name = some value ∧
                          (Tree.merge listings).at? path = some (.leaf value) ∧
                            ((.environment ∈ before →
                                Source.environment.value? world name = none) →
                              config.rawValue? world name = some value) ∧
                              (∀ answer, .environment ∈ before →
                                Source.environment.value? world name = some answer →
                                  config.rawValue? world name = some answer ∧
                                    ('=' ∉ name.toList →
                                      ∃ mapped ∈ (Source.environmentNames name).tail,
                                        world.environment.texts.find? mapped = some answer)) := by
  intro world upper lower config listings name path
  have bundled : ∀ source ∈ config.sources, source.isCustom = false := by
    decide
  have proper : world.environment.Proper := by
    decide
  have listed : List.Forall₂
      (fun source listing => listing.Perm (source.properties world).entries)
      config.sources listings :=
    .cons (.refl _) (.cons (List.reverse_perm _) (.cons (List.reverse_perm _) .nil))
  have known : name ∈ config.propertyNames world := by
    rw [mem_propertyNames]
    decide
  have place : Tree.segments? name = some path := by
    decide
  have apart : ∀ other ∈ config.propertyNames world,
      Tree.Touches other path → other = name := by
    intro other member
    obtain ⟨source, present, lists⟩ := mem_propertyNames.mp member
    have every : ∀ source ∈ config.sources, ∀ other ∈ (source.properties world).names,
        Tree.Touches other path → other = name := by
      decide
    exact every source present other lists
  exact ⟨bundled, proper, listed, known, place, apart,
    lookup_beside_tree bundled proper listed known place apart⟩

/-- A lookup that the environment answers under a mapped name and a tree that has what a lower
source lists. -/
theorem lookup_mapped_above_tree :
    let world : World :=
      ⟨⟨"<cwd>", []⟩, ⟨[("SERVER_PORT", "80".toUTF8)], by decide⟩, .empty⟩
    let below : Source := .fixed "below" 100 ⟨[("server.port", "90")], by decide⟩
    ∃ builder config,
      (Builder.new world).callAll [.addSources [.environment, below]] = .ok builder ∧
        (builder.build .empty world .empty).result = .ok config ∧
          (∀ source ∈ config.sources, source.isCustom = false) ∧
            world.environment.Proper ∧
              "server.port" ∈ config.propertyNames world ∧
                Tree.segments? "server.port" = some ["server", "port"] ∧
                  (∀ other ∈ config.propertyNames world,
                      Tree.Touches other ["server", "port"] → other = "server.port") ∧
                    config.rawValue? world "server.port" = some "80" ∧
                      ∀ enumeration,
                        (config.tree enumeration world).at? ["server", "port"] =
                          some (.leaf "90") := by
  intro world below
  let builder : Builder := { Builder.new world with sources := [.environment, below] }
  let config : Config := ⟨[.environment, below], []⟩
  have read : (Builder.readOrdinals world .empty builder.sources).1 =
      [(300, .environment), (100, below)] := rfl
  have ranked : Builder.rank (Builder.readOrdinals world .empty builder.sources).1 =
      config.sources := by
    rw [read, Builder.rank, List.mergeSort_of_pairwise (by simp)]
    rfl
  have built : (builder.build .empty world .empty).result = .ok config := by
    apply Builder.build_result_eq_ok_iff.mpr
    refine ⟨builder.sources, .empty, rfl, rfl, ?_⟩
    rw [ranked]
    rfl
  have names (other : String) :
      other ∈ config.propertyNames world ↔ other ∈ ["SERVER_PORT", "server.port"] := by
    rw [mem_propertyNames]
    simp only [config, List.mem_cons, List.not_mem_nil, or_false, exists_eq_or_imp,
      exists_eq_left]
    have environmentNames : (Source.environment.properties world).names = ["SERVER_PORT"] := rfl
    have belowNames : (below.properties world).names = ["server.port"] := rfl
    rw [environmentNames, belowNames, List.mem_singleton, List.mem_singleton]
  have apart : ∀ other ∈ ["SERVER_PORT", "server.port"],
      Tree.Touches other ["server", "port"] → other = "server.port" := by
    decide
  refine ⟨builder, config, rfl, built, by decide, by decide, ?_, by decide, ?_, by decide, ?_⟩
  · rw [names]
    decide
  · intro other member
    exact apart other ((names other).mp member)
  · intro enumeration
    have upper : enumeration.list .environment (Source.environment.properties world) =
        [("SERVER_PORT", "80")] :=
      List.perm_singleton.mp (enumeration.perm _ _)
    have lower : enumeration.list below (below.properties world) = [("server.port", "90")] :=
      List.perm_singleton.mp (enumeration.perm _ _)
    rw [Config.tree, List.map_cons, List.map_singleton, upper, lower]
    rfl

end Config

end LayeredConfig
