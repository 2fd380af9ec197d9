import LayeredConfig.Proofs.PlainText

/-!
Tools that write properties files in ASCII write a character as the code units it has in UTF-16,
each of them as a code of its own: one unit for most characters, and two for those past the first
65536. The reader decodes every code by itself. So it gets back a text that needs no pairs of
units, and of any other character it makes two replacement characters.
-/

namespace LayeredConfig.Properties

/-- The code units of a character in UTF-16. -/
def codeUnits (c : Char) : List Nat :=
  if c.toNat < 0x10000 then [c.toNat]
  else
    let offset := c.toNat - 0x10000
    [0xD800 + offset / 0x400, 0xDC00 + offset % 0x400]

/-- A text in which code units are written one after the other, each as a backslash, the letter of
a code and four hexadecimal digits. -/
inductive WritesUnits : List Nat → List Char → Prop
  | nil : WritesUnits [] []
  | cons {unit : Nat} (digits : List Char) {units : List Nat} {rest : List Char} :
      IsCode digits → Numeral.naturalOfDigits 16 digits = unit → WritesUnits units rest →
        WritesUnits (unit :: units) ('\\' :: 'u' :: (digits ++ rest))

namespace WritesUnits

variable {units : List Nat} {text : List Char}

theorem mem_cases (writes : WritesUnits units text) {c : Char} (member : c ∈ text) :
    c = '\\' ∨ c = 'u' ∨ Numeral.HexDigit c := by
  induction writes with
  | nil => cases member
  | cons digits code _ _ inductionHypothesis =>
      rw [List.mem_cons, List.mem_cons, List.mem_append] at member
      rcases member with isBackslash | isLetter | inDigits | inRest
      · exact Or.inl isBackslash
      · exact Or.inr (Or.inl isLetter)
      · exact Or.inr (Or.inr (code.2 c inDigits))
      · exact inductionHypothesis inRest

/-- Written units hold no character with the meaning of a separator or of the end of a line. -/
theorem ne_of_mem (writes : WritesUnits units text) {c other : Char} (member : c ∈ text)
    (notBackslash : other ≠ '\\') (notLetter : other ≠ 'u')
    (notDigit : ¬ Numeral.HexDigit other) : c ≠ other := by
  rintro rfl
  rcases writes.mem_cases member with isBackslash | isLetter | isDigit
  · exact notBackslash isBackslash
  · exact notLetter isLetter
  · exact notDigit isDigit

theorem noFeed (writes : WritesUnits units text) : '\n' ∉ text :=
  fun member => writes.ne_of_mem member (by decide) (by decide) (by decide) rfl

theorem unseparated (writes : WritesUnits units text) :
    ∀ c ∈ text, isSeparatorSign c = false ∧ isSeparatorBlank c = false := by
  intro c member
  have apart {other : Char} (notBackslash : other ≠ '\\') (notLetter : other ≠ 'u')
      (notDigit : ¬ Numeral.HexDigit other) : c ≠ other :=
    writes.ne_of_mem member notBackslash notLetter notDigit
  have notEquals : c ≠ '=' := apart (by decide) (by decide) (by decide)
  have notColon : c ≠ ':' := apart (by decide) (by decide) (by decide)
  have notSpace : c ≠ ' ' := apart (by decide) (by decide) (by decide)
  have notTab : c ≠ '\t' := apart (by decide) (by decide) (by decide)
  have notFormFeed : c ≠ '\x0c' := apart (by decide) (by decide) (by decide)
  simp [isSeparatorSign, isSeparatorBlank, notEquals, notColon, notSpace, notTab, notFormFeed]

theorem closed (writes : WritesUnits units text) : leavesEscape false text = false := by
  induction writes with
  | nil => rfl
  | cons digits code _ _ inductionHypothesis =>
      have digitsClosed := leavesEscape_of_noBackslash (IsReadable.noBackslash (Or.inl code))
      have opened (rest : List Char) :
          leavesEscape false ('\\' :: 'u' :: rest) = leavesEscape false rest := rfl
      rw [opened, leavesEscape_append, digitsClosed, inductionHypothesis]

theorem head?_eq (writes : WritesUnits units text) {c : Char} (isFirst : c ∈ text.head?) :
    c = '\\' := by
  cases writes with
  | nil => cases isFirst
  | cons => exact (Option.some.inj isFirst).symm

theorem unescape_eq (writes : WritesUnits units text) :
    unescape text = .ok (units.map charOfCode) := by
  induction writes with
  | nil => rfl
  | @cons unit digits units rest code denotes _ inductionHypothesis =>
      -- The decoder takes its four digits one by one.
      match digits, code.1 with
      | [a, b, c, d], _ =>
          have given : escapeCode? [a, b, c, d] = some unit :=
            escapeCode?_eq_some_iff.mpr ⟨Or.inl code, denotes.symm⟩
          simp only [List.cons_append, List.nil_append, unescape, given, inductionHypothesis]
          rfl

end WritesUnits

theorem charOfCode_toNat (c : Char) : charOfCode c.toNat = c := by
  have valid : c.toNat.isValidChar := c.valid
  rw [charOfCode, if_pos valid, Char.ofNat_toNat]

theorem charOfCode_surrogate {code : Nat} (low : 0xD800 ≤ code) (high : code ≤ 0xDFFF) :
    charOfCode code = '\ufffd' := by
  have invalid : ¬ code.isValidChar := by
    simp only [Nat.isValidChar]
    omega
  rw [charOfCode, if_neg invalid]

/-- What is read of a character that is written as its code units. -/
def unpaired (c : Char) : List Char :=
  if c.toNat < 0x10000 then [c] else ['\ufffd', '\ufffd']

theorem map_charOfCode_codeUnits (c : Char) : (codeUnits c).map charOfCode = unpaired c := by
  rw [codeUnits, unpaired]
  by_cases single : c.toNat < 0x10000
  · rw [if_pos single, if_pos single, List.map_singleton, charOfCode_toNat]
  · have bound : c.toNat < 0x110000 := by
      rcases c.valid with below | above
      · exact Nat.lt_trans below (by decide)
      · exact above.2
    have quotient : (c.toNat - 0x10000) / 0x400 < 0x400 := by omega
    have remainder : (c.toNat - 0x10000) % 0x400 < 0x400 := Nat.mod_lt _ (by decide)
    rw [if_neg single, if_neg single, List.map_cons, List.map_singleton,
      charOfCode_surrogate (by omega) (by omega), charOfCode_surrogate (by omega) (by omega)]

theorem map_charOfCode_flatMap (text : List Char) :
    (text.flatMap codeUnits).map charOfCode = text.flatMap unpaired := by
  rw [List.map_flatMap]
  simp only [map_charOfCode_codeUnits]

theorem length_le_flatMap_unpaired (text : List Char) :
    text.length ≤ (text.flatMap unpaired).length := by
  induction text with
  | nil => simp
  | cons c rest inductionHypothesis =>
      have positive : 1 ≤ (unpaired c).length := by
        rw [unpaired]
        split <;> simp
      rw [List.flatMap_cons, List.length_append, List.length_cons]
      omega

/-- A text comes through exactly if each of its characters has one code unit. -/
theorem flatMap_unpaired_eq_self_iff {text : List Char} :
    text.flatMap unpaired = text ↔ ∀ c ∈ text, c.toNat < 0x10000 := by
  induction text with
  | nil => simp
  | cons c rest inductionHypothesis =>
      rw [List.flatMap_cons, List.forall_mem_cons, unpaired]
      by_cases single : c.toNat < 0x10000
      · rw [if_pos single, List.singleton_append, List.cons_inj_right, inductionHypothesis]
        simp [single]
      · rw [if_neg single]
        constructor
        · intro same
          -- Two characters stand for one, and none of the later ones is missing.
          have sameLength := congrArg List.length same
          have longer := length_le_flatMap_unpaired rest
          simp only [List.length_append, List.length_cons, List.length_nil] at sameLength
          omega
        · intro singles
          exact absurd singles.1 single

section Reading

variable {keyUnits valueUnits : List Nat} {keyText valueText : List Char}
  (keyWrites : WritesUnits keyUnits keyText) (valueWrites : WritesUnits valueUnits valueText)

include keyWrites valueWrites

/-- A line of code units is a logical line: it begins with a backslash, or with the sign if the
key is empty. -/
theorem logicalLines_of_writes :
    logicalLines (keyText ++ '=' :: valueText) = [keyText ++ '=' :: valueText] := by
  have noFeed : '\n' ∉ keyText ++ '=' :: valueText := by
    rw [List.mem_append, List.mem_cons, not_or, not_or]
    exact ⟨keyWrites.noFeed, by decide, valueWrites.noFeed⟩
  have closed : leavesEscape false (keyText ++ '=' :: valueText) = false := by
    rw [leavesEscape_append, keyWrites.closed]
    exact valueWrites.closed
  rw [logicalLines, physicalLines_of_noFeed noFeed (by simp)]
  cases keyWrites with
  | nil => exact joinLines_cons (by decide) rfl closed
  | cons => exact joinLines_cons (by decide) rfl closed

theorem rawEntries_of_writes :
    rawEntries (String.ofList (keyText ++ '=' :: valueText)) = [(keyText, valueText)] := by
  have flush : ∀ c ∈ valueText.head?, isSeparatorBlank c = false := by
    intro c isFirst
    rw [valueWrites.head?_eq isFirst]
    rfl
  rw [rawEntries, String.toList_ofList, logicalLines_of_writes keyWrites valueWrites,
    List.map_singleton, splitEntry_sign keyWrites.unseparated keyWrites.closed flush]

theorem parse_of_writes :
    parse (String.ofList (keyText ++ '=' :: valueText)) =
      .ok (NameMap.ofList [(String.ofList (keyUnits.map charOfCode),
        String.ofList (valueUnits.map charOfCode))]) := by
  rw [parse, rawEntries_of_writes keyWrites valueWrites, List.mapM_cons, decodeEntry,
    keyWrites.unescape_eq, valueWrites.unescape_eq]
  rfl

end Reading

/-- A key and a value that are written in code units are read unit by unit, so that a character of
two units becomes two replacement characters. They come through exactly if there is no such
character among them. -/
theorem code_units_read_singly {key value : String} {keyText valueText : List Char}
    (keyWrites : WritesUnits (key.toList.flatMap codeUnits) keyText)
    (valueWrites : WritesUnits (value.toList.flatMap codeUnits) valueText) :
    parse (String.ofList (keyText ++ '=' :: valueText)) =
        .ok (NameMap.ofList [(String.ofList (key.toList.flatMap unpaired),
          String.ofList (value.toList.flatMap unpaired))]) ∧
      (parse (String.ofList (keyText ++ '=' :: valueText)) =
          .ok (NameMap.ofList [(key, value)]) ↔
        ∀ c ∈ key.toList ++ value.toList, c.toNat < 0x10000) := by
  have read := parse_of_writes keyWrites valueWrites
  rw [map_charOfCode_flatMap, map_charOfCode_flatMap] at read
  refine ⟨read, ?_⟩
  rw [read, Except.ok.injEq, NameMap.ofList_singleton_inj, ← String.toList_inj, ← String.toList_inj,
    String.toList_ofList, String.toList_ofList, flatMap_unpaired_eq_self_iff,
    flatMap_unpaired_eq_self_iff, List.forall_mem_append]

private theorem isCode_of_all {digits : List Char} (four : digits.length = 4)
    (all : (digits.all fun c => decide (Numeral.HexDigit c)) = true) : IsCode digits :=
  ⟨four, fun c member => of_decide_eq_true (List.all_eq_true.mp all c member)⟩

/-- Digits of both cases, and a key without characters. -/
theorem code_units_read_singly_accented :
    WritesUnits ("".toList.flatMap codeUnits) [] ∧
      WritesUnits ("éĪ".toList.flatMap codeUnits) "\\u00e9\\u012A".toList ∧
      parse (String.ofList ([] ++ '=' :: "\\u00e9\\u012A".toList)) =
        .ok (NameMap.ofList [("", "éĪ")]) := by
  have keyWrites : WritesUnits ("".toList.flatMap codeUnits) [] := .nil
  have valueWrites : WritesUnits ("éĪ".toList.flatMap codeUnits) "\\u00e9\\u012A".toList :=
    .cons ['0', '0', 'e', '9'] (isCode_of_all rfl rfl) rfl
      (.cons ['0', '1', '2', 'A'] (isCode_of_all rfl rfl) rfl .nil)
  have singles : ∀ c ∈ "".toList ++ "éĪ".toList, c.toNat < 0x10000 := by
    rw [List.forall_mem_append]
    simp
  exact ⟨keyWrites, valueWrites, (code_units_read_singly keyWrites valueWrites).2.mpr singles⟩

/-- A pair of code units is not read as the character that it was written for. -/
theorem code_unit_pair_lost :
    parse "\\u006b=\\ud83d\\ude00" = .ok (NameMap.ofList [("k", "\ufffd\ufffd")]) ∧
      ¬ ∀ (key value : String) (keyText valueText : List Char),
        WritesUnits (key.toList.flatMap codeUnits) keyText →
          WritesUnits (value.toList.flatMap codeUnits) valueText →
            parse (String.ofList (keyText ++ '=' :: valueText)) =
              .ok (NameMap.ofList [(key, value)]) := by
  have read : parse "\\u006b=\\ud83d\\ude00" =
      .ok (NameMap.ofList [("k", "\ufffd\ufffd")]) := by rfl
  refine ⟨read, fun restored => ?_⟩
  have keyWrites : WritesUnits ("k".toList.flatMap codeUnits) "\\u006b".toList :=
    .cons ['0', '0', '6', 'b'] (isCode_of_all rfl rfl) rfl .nil
  have valueWrites : WritesUnits ("😀".toList.flatMap codeUnits) "\\ud83d\\ude00".toList :=
    .cons ['d', '8', '3', 'd'] (isCode_of_all rfl rfl) rfl
      (.cons ['d', 'e', '0', '0'] (isCode_of_all rfl rfl) rfl .nil)
  have written : String.ofList ("\\u006b".toList ++ '=' :: "\\ud83d\\ude00".toList) =
      "\\u006b=\\ud83d\\ude00" := by rfl
  have smiling := restored "k" "😀" _ _ keyWrites valueWrites
  rw [written, read, Except.ok.injEq, NameMap.ofList_singleton_inj] at smiling
  exact absurd smiling.2 (by decide)

end LayeredConfig.Properties
