import LayeredConfig.Proofs.CoherentSources

/-!
A key is looked up in the environment under three names: its own, the one with all characters other
than ASCII letters and digits replaced, and that one in capitals. The first of them that stands for
a text decides, and variables whose value is no text are passed over. So keys that are no variables
themselves are answered alike if they are mapped alike, and other variables have no influence.
-/

namespace LayeredConfig

namespace Environment

/-- The text is the value of one of the names, and none of the names before stands for a text. -/
def FirstText (environment : Environment) (names : List String) (text : String) : Prop :=
  ∃ before name after, names = before ++ name :: after ∧
    (∀ earlier ∈ before, ¬ environment.HasText earlier) ∧
      environment.find? name = some text.toUTF8

theorem fromUTF8?_eq_some_iff
    {bytes : ByteArray} {text : String} :
    String.fromUTF8? bytes = some text ↔ bytes = text.toUTF8 := by
  constructor
  · intro decoded
    by_cases valid : bytes.IsValidUTF8
    · rw [String.fromUTF8?, dif_pos valid] at decoded
      rw [← Option.some.inj decoded]
      rfl
    · rw [String.fromUTF8?, dif_neg valid] at decoded
      cases decoded
  · intro encoded
    rw [encoded]
    exact dif_pos text.isValidUTF8

section Names

variable {environment : Environment} {asked text : String}

theorem text?_eq_some_iff
    (proper : environment.Proper) (plain : '=' ∉ asked.toList) :
    environment.text? asked = some text ↔ environment.find? asked = some text.toUTF8 := by
  have listing : environment.text? asked = some text ↔
      environment.texts.find? asked = some text :=
    ⟨Source.find?_texts_of_text? plain, text?_of_find?_texts proper⟩
  rw [listing, find?_texts_eq_some_iff]
  simp only [fromUTF8?_eq_some_iff, exists_eq_right]

theorem text?_eq_none_iff
    (proper : environment.Proper) (plain : '=' ∉ asked.toList) :
    environment.text? asked = none ↔ ¬ environment.HasText asked := by
  rw [← mem_names_texts_iff, ← NameMap.find?_isSome, Option.not_isSome_iff_eq_none,
    Option.eq_none_iff_forall_not_mem, Option.eq_none_iff_forall_not_mem]
  apply forall_congr'
  intro text
  exact not_congr ⟨Source.find?_texts_of_text? plain, text?_of_find?_texts proper⟩

theorem findSome?_text?_eq_some_iff
    (proper : environment.Proper) {names : List String}
    (plain : ∀ name ∈ names, '=' ∉ name.toList) :
    names.findSome? environment.text? = some text ↔ environment.FirstText names text := by
  rw [List.findSome?_eq_some_iff, FirstText]
  constructor
  · intro found
    obtain ⟨before, name, after, rfl, own, silent⟩ := found
    rw [List.forall_mem_append, List.forall_mem_cons] at plain
    refine ⟨before, name, after, rfl, ?_, (text?_eq_some_iff proper plain.2.1).mp own⟩
    intro earlier member
    exact (text?_eq_none_iff proper (plain.1 earlier member)).mp (silent earlier member)
  · intro first
    obtain ⟨before, name, after, rfl, silent, own⟩ := first
    rw [List.forall_mem_append, List.forall_mem_cons] at plain
    refine ⟨before, name, after, rfl, (text?_eq_some_iff proper plain.2.1).mpr own, ?_⟩
    intro earlier member
    exact (text?_eq_none_iff proper (plain.1 earlier member)).mpr (silent earlier member)

end Names

/-- An environment after the variable of a name was set or removed. -/
inductive Changed (name : String) (environment : Environment) : Environment → Prop
  | set (bytes : ByteArray) : Changed name environment (environment.insert name bytes)
  | removed : Changed name environment (environment.erase name)

theorem Changed.find?_eq
    {name other : String} {environment after : Environment}
    (changed : Changed name environment after) (different : other ≠ name) :
    after.find? other = environment.find? other := by
  cases changed with
  | set bytes =>
      rw [NameMap.find?_insert, if_neg different]
  | removed =>
      rw [NameMap.find?_erase, if_neg different]

theorem Changed.text?_eq
    {name asked : String} {environment after : Environment}
    (changed : Changed name environment after) (different : asked ≠ name)
    (plain : '=' ∉ asked.toList) :
    after.text? asked = environment.text? asked := by
  have noEquals : asked.toList.contains '=' = false := by
    simpa using plain
  have found := changed.find?_eq different
  simp only [text?, bytes?, noEquals, Bool.false_eq_true, if_false, found]

end Environment

namespace Source

theorem sanitize_sanitize
    (key : String) :
    sanitize (sanitize key) = sanitize key := by
  rw [sanitize, sanitize, String.toList_ofList, List.map_map]
  apply congrArg String.ofList
  apply List.map_congr_left
  intro c _
  by_cases alphanumeric : c.isAlphanum = true
  · simp [alphanumeric]
  · simp [alphanumeric]

section Lookups

variable {world : World} {key : String}

theorem equals_not_mem_environmentNames
    (plain : '=' ∉ key.toList) :
    ∀ name ∈ environmentNames key, '=' ∉ name.toList := by
  intro name member
  rcases List.mem_cons.mp member with rfl | mapped
  · exact plain
  · exact equals_not_mem_mapped mapped

/-- A key that is no variable itself is answered as the name it is mapped to. -/
theorem environment_value?_sanitize
    (silent : world.environment.text? key = none) :
    environment.value? world key = environment.value? world (sanitize key) := by
  simp only [value?, environmentNames, sanitize_sanitize, List.findSome?_cons, silent]
  cases world.environment.text? (sanitize key) <;> rfl

theorem environment_value?_of_changed
    {name : String} {after : Environment}
    (changed : Environment.Changed name world.environment after)
    (plain : '=' ∉ key.toList) (other : name ∉ environmentNames key) :
    environment.value? { world with environment := after } key =
      environment.value? world key := by
  have answers : (environmentNames key).map after.text? =
      (environmentNames key).map world.environment.text? := by
    apply List.map_congr_left
    intro asked member
    apply changed.text?_eq
    · intro same
      rw [same] at member
      exact other member
    · exact equals_not_mem_environmentNames plain asked member
  have first := congrArg (List.findSome? id) answers
  rwa [List.findSome?_map, List.findSome?_map] at first

theorem environment_ordinal_of_changed
    {name : String} {after : Environment}
    (changed : Environment.Changed name world.environment after)
    (other : name ∉ ["config_ordinal", "CONFIG_ORDINAL"]) (counters : Counters) :
    environment.ordinal { world with environment := after } counters =
      environment.ordinal world counters := by
  have names : environmentNames ordinalKey =
      ["config_ordinal", "config_ordinal", "CONFIG_ORDINAL"] := by
    decide +kernel
  have unasked : name ∉ environmentNames ordinalKey := by
    rw [names, List.mem_cons, not_or]
    exact ⟨fun same => other (same ▸ List.mem_cons_self), other⟩
  have plain : '=' ∉ ordinalKey.toList := by
    decide
  have same := environment_value?_of_changed changed plain unasked
  simp only [ordinal, ownOrdinal, same]

end Lookups

/-- In the environment of a process a key has the first text among the variables named as the key,
as the name it is mapped to, and as that name in capitals. A key that names no text is answered as
the name it is mapped to, and so are all such keys that are mapped to it. Setting or removing a
variable changes only the answers to keys that are looked up under its name, and the ordinal only if
that is one of the two names of its key. -/
theorem environment_answers_mapped_names
    {world : World} (proper : world.environment.Proper)
    {key : String} (plain : '=' ∉ key.toList) :
    (∀ text, environment.value? world key = some text ↔
      world.environment.FirstText
        [key, sanitize key, String.ofList (Text.asciiUpper (sanitize key).toList)] text) ∧
      (¬ world.environment.HasText key →
        environment.value? world key = environment.value? world (sanitize key) ∧
          ∀ other, '=' ∉ other.toList → ¬ world.environment.HasText other →
            sanitize other = sanitize key →
              environment.value? world other = environment.value? world key) ∧
        ∀ name after, Environment.Changed name world.environment after →
          (name ∉ [key, sanitize key, String.ofList (Text.asciiUpper (sanitize key).toList)] →
            environment.value? { world with environment := after } key =
              environment.value? world key) ∧
            (name ∉ ["config_ordinal", "CONFIG_ORDINAL"] → ∀ counters,
              environment.ordinal { world with environment := after } counters =
                environment.ordinal world counters) := by
  refine ⟨?_, ?_, ?_⟩
  · intro text
    exact Environment.findSome?_text?_eq_some_iff proper (equals_not_mem_environmentNames plain)
  · intro unnamed
    have own := environment_value?_sanitize
      ((Environment.text?_eq_none_iff proper plain).mpr unnamed)
    refine ⟨own, ?_⟩
    intro other otherPlain otherUnnamed same
    have others := environment_value?_sanitize
      ((Environment.text?_eq_none_iff proper otherPlain).mpr otherUnnamed)
    rw [own, others, same]
  · intro name after changed
    refine ⟨environment_value?_of_changed changed plain, ?_⟩
    exact fun other => environment_ordinal_of_changed changed other

/-- A variable that is no text in front of one that is, and two keys that are mapped alike. -/
theorem environment_answers_mapped_names_shadowed :
    let shadowed : Environment :=
      ⟨[("server_port", ⟨#[0xFF]⟩), ("SERVER_PORT", "80".toUTF8)], by decide⟩
    let world : World := ⟨⟨"<cwd>", []⟩, shadowed, .empty⟩
    world.environment.Proper ∧
      environment.value? world "server.port" = some "80" ∧
        environment.value? world "server-port" = environment.value? world "server.port" ∧
          environment.value? { world with environment := shadowed.erase "PORT" } "server.port" =
              environment.value? world "server.port" ∧
            environment.ordinal { world with environment := shadowed.erase "PORT" } .empty =
              environment.ordinal world .empty := by
  intro shadowed world
  have proper : world.environment.Proper := by
    decide
  have plain : '=' ∉ "server.port".toList := by
    decide
  have names : ["server.port", sanitize "server.port",
      String.ofList (Text.asciiUpper (sanitize "server.port").toList)] =
        ["server.port", "server_port", "SERVER_PORT"] := by
    decide +kernel
  have resolved := environment_answers_mapped_names proper plain
  rw [names] at resolved
  obtain ⟨first, mapped, unmoved⟩ := resolved
  obtain ⟨value, ordinal⟩ := unmoved "PORT" _ Environment.Changed.removed
  refine ⟨proper, ?_, ?_, value (by decide), ordinal (by decide) _⟩
  · apply (first "80").mpr
    exact ⟨["server.port", "server_port"], "SERVER_PORT", [], rfl, by decide +kernel,
      by decide +kernel⟩
  · have unnamed : ¬ world.environment.HasText "server.port" := by
      decide +kernel
    apply (mapped unnamed).2 "server-port"
    · decide
    · decide +kernel
    · decide +kernel

end Source

end LayeredConfig
