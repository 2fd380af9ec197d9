import LayeredConfig.Proofs.TextBytes
import LayeredConfig.Source.Basic

/-!
An environment is searched for the text before an equals sign, so a name that holds one itself
may be found inside the line of another variable. The names of real variables are such that this
does not happen to them: a variable that is listed answers to its name with its own text.
-/

namespace LayeredConfig.Environment

/-- A variable has a name without zero characters, in which no equals sign stands behind the
first character. -/
def IsVariable (name : String) : Prop :=
  name ≠ "" ∧ '\x00' ∉ name.toList ∧ '=' ∉ name.toList.tail

instance (name : String) : Decidable (IsVariable name) :=
  inferInstanceAs (Decidable (_ ∧ _ ∧ _))

/-- An environment as a process can have it. -/
def Proper (environment : Environment) : Prop :=
  ∀ name ∈ environment.names, IsVariable name

instance (environment : Environment) : Decidable environment.Proper :=
  inferInstanceAs (Decidable (∀ name ∈ environment.names, IsVariable name))

theorem equals_not_mem_encoded
    {c : Char} (different : c ≠ '=') :
    (0x3D : UInt8) ∉ String.utf8EncodeChar c := by
  intro member
  rcases Text.encoded_byte member with same | above
  · exact different (Char.ext (UInt32.toNat_inj.mp same.symm))
  · exact absurd above (by decide)

/-- Behind the first byte of a character none is the byte of an equals sign. -/
theorem encoded_eq_cons
    (c : Char) :
    ∃ first rest, String.utf8EncodeChar c = first :: rest ∧ (0x3D : UInt8) ∉ rest := by
  by_cases equals : c = '='
  · rw [equals]
    exact ⟨0x3D, [], rfl, List.not_mem_nil⟩
  · have absent := equals_not_mem_encoded equals
    cases encoded : String.utf8EncodeChar c with
    | nil =>
        have size := String.length_utf8EncodeChar c
        rw [encoded] at size
        exact absurd size (Nat.ne_of_lt (Char.utf8Size_pos c))
    | cons first rest =>
        rw [encoded] at absent
        exact ⟨first, rest, rfl, fun member => absent (List.mem_cons_of_mem first member)⟩

theorem IsVariable.toList_toUTF8
    {name : String} (isVariable : IsVariable name) :
    ∃ first rest, name.toUTF8.toList = first :: rest ∧ (0x3D : UInt8) ∉ rest := by
  obtain ⟨proper, -, tailFree⟩ := isVariable
  rw [Text.toList_toUTF8]
  cases characters : name.toList with
  | nil =>
      exact absurd (String.toList_eq_nil_iff.mp characters) proper
  | cons c others =>
      rw [characters, List.tail_cons] at tailFree
      obtain ⟨first, rest, encoded, free⟩ := encoded_eq_cons c
      refine ⟨first, rest ++ others.flatMap String.utf8EncodeChar, ?_, ?_⟩
      · rw [List.flatMap_cons, encoded, List.cons_append]
      · intro member
        rcases List.mem_append.mp member with inRest | inOthers
        · exact free inRest
        · obtain ⟨other, present, byte⟩ := List.mem_flatMap.mp inOthers
          have different : other ≠ '=' := by
            rintro rfl
            exact tailFree present
          exact equals_not_mem_encoded different byte

theorem split_line_inj
    {first second firstRest secondRest : List UInt8}
    (firstFree : (0x3D : UInt8) ∉ first) (secondFree : (0x3D : UInt8) ∉ second)
    (same : first ++ 0x3D :: firstRest = second ++ 0x3D :: secondRest) :
    first = second ∧ firstRest = secondRest := by
  rcases List.append_eq_append_iff.mp same with ⟨more, longer, rest⟩ | ⟨more, longer, rest⟩
  · cases more with
    | nil =>
        rw [List.append_nil] at longer
        exact ⟨longer.symm, (List.cons.inj rest).2⟩
    | cons byte others =>
        rw [longer, ← (List.cons.inj rest).1] at secondFree
        exact absurd (List.mem_append_right first List.mem_cons_self) secondFree
  · cases more with
    | nil =>
        rw [List.append_nil] at longer
        exact ⟨longer, (List.cons.inj rest).2.symm⟩
    | cons byte others =>
        rw [longer, ← (List.cons.inj rest).1] at firstFree
        exact absurd (List.mem_append_right second List.mem_cons_self) firstFree

theorem afterBeginning?_eq_some_iff
    {beginning bytes rest : List UInt8} :
    afterBeginning? beginning bytes = some rest ↔ bytes = beginning ++ rest := by
  induction beginning generalizing bytes with
  | nil =>
      simp [afterBeginning?]
  | cons expected others inductionHypothesis =>
      cases bytes with
      | nil =>
          simp [afterBeginning?]
      | cons byte further =>
          by_cases same : expected = byte
          · simp [afterBeginning?, same, inductionHypothesis]
          · simp [afterBeginning?, same, Ne.symm same]

/-- Only the line of a variable itself begins with its name and an equals sign. -/
theorem valueIn?_eq_some_iff
    {asked name : String} {value bytes : ByteArray}
    (askedVariable : IsVariable asked) (nameVariable : IsVariable name) :
    valueIn? asked (name, value) = some bytes ↔ name = asked ∧ value = bytes := by
  obtain ⟨first, rest, askedBytes, askedFree⟩ := askedVariable.toList_toUTF8
  obtain ⟨other, others, nameBytes, nameFree⟩ := nameVariable.toList_toUTF8
  have whole (content : ByteArray) : (⟨content.toList.toArray⟩ : ByteArray) = content := by
    rw [Text.toList_eq_data]
  rw [valueIn?, Option.map_eq_some_iff]
  constructor
  · rintro ⟨found, after, rfl⟩
    have line := afterBeginning?_eq_some_iff.mp after
    simp only [askedBytes, nameBytes, List.cons_append, List.append_assoc,
      List.nil_append] at line
    -- behind their first byte both names end at the first equals sign
    obtain ⟨sameFirst, tails⟩ := List.cons.inj line
    obtain ⟨sameRest, sameValue⟩ := split_line_inj nameFree askedFree tails
    have sameName : name = asked := by
      apply Text.toUTF8_toList_inj
      rw [nameBytes, askedBytes, sameFirst, sameRest]
    refine ⟨sameName, ?_⟩
    rw [← sameValue, whole]
  · rintro ⟨rfl, rfl⟩
    refine ⟨value.toList, ?_, whole value⟩
    apply afterBeginning?_eq_some_iff.mpr
    rfl

/-- In the environment of a process a variable stands for the bytes it is listed with. -/
theorem bytes?_eq_find?
    {environment : Environment} (proper : environment.Proper)
    {asked : String} (askedVariable : IsVariable asked) :
    environment.bytes? asked = environment.find? asked := by
  have notEmpty : asked.isEmpty = false := by
    simpa using askedVariable.1
  have noZero : asked.toList.contains '\x00' = false := by
    simpa using askedVariable.2.1
  rw [bytes?, notEmpty, noZero]
  simp only [Bool.or_self, Bool.false_eq_true, if_false]
  split
  · apply Option.ext
    intro bytes
    rw [← NameMap.mem_entries_iff]
    constructor
    · intro found
      obtain ⟨⟨name, value⟩, member, its⟩ := List.exists_of_findSome?_eq_some found
      have nameVariable := proper name (List.mem_map_of_mem member)
      obtain ⟨rfl, rfl⟩ := (valueIn?_eq_some_iff askedVariable nameVariable).mp its
      exact member
    · intro member
      have own : valueIn? asked (asked, bytes) = some bytes :=
        (valueIn?_eq_some_iff askedVariable askedVariable).mpr ⟨rfl, rfl⟩
      have answered : (environment.entries.findSome? (valueIn? asked)).isSome := by
        rw [List.findSome?_isSome_iff]
        exact ⟨_, member, by rw [own]; rfl⟩
      -- the first line that fits may come earlier, but it is of the same name
      obtain ⟨found, answer⟩ := Option.isSome_iff_exists.mp answered
      obtain ⟨⟨name, value⟩, present, its⟩ := List.exists_of_findSome?_eq_some answer
      have nameVariable := proper name (List.mem_map_of_mem present)
      obtain ⟨rfl, rfl⟩ := (valueIn?_eq_some_iff askedVariable nameVariable).mp its
      have sameValue : some value = some bytes :=
        (NameMap.mem_entries_iff.mp present).symm.trans (NameMap.mem_entries_iff.mp member)
      rw [answer, sameValue]
  · rfl

theorem text?_eq_find?_texts
    {environment : Environment} (proper : environment.Proper)
    {asked : String} (askedVariable : IsVariable asked) :
    environment.text? asked = environment.texts.find? asked := by
  rw [text?, bytes?_eq_find? proper askedVariable, texts, NameMap.find?_filterMap]

theorem find?_texts_eq_some_iff
    {environment : Environment} {name text : String} :
    environment.texts.find? name = some text ↔
      ∃ bytes, environment.find? name = some bytes ∧ String.fromUTF8? bytes = some text := by
  rw [texts, NameMap.find?_filterMap, Option.bind_eq_some_iff]

/-- A listed variable is found under its own name. -/
theorem text?_of_find?_texts
    {environment : Environment} (proper : environment.Proper) {name text : String}
    (listed : environment.texts.find? name = some text) :
    environment.text? name = some text := by
  obtain ⟨bytes, found, _⟩ := find?_texts_eq_some_iff.mp listed
  have known : name ∈ environment.names := NameMap.find?_isSome.mp (by rw [found]; rfl)
  rw [text?_eq_find?_texts proper (proper name known), listed]

end LayeredConfig.Environment
