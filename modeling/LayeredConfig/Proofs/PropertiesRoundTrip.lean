import LayeredConfig.Proofs.EscapeState
import LayeredConfig.Proofs.Traversal
import LayeredConfig.Properties.Content

/-!
A writer for properties files escapes whatever the format gives a meaning to. Each layer of the
reader takes the written text for what it is: the lines are those that were written, none of
them goes on in the next, the separator is the written one, and the escapes stand for the
characters they were made of.
-/

namespace LayeredConfig.Properties

/-- The characters that a backslash takes their meaning from. -/
def isProtected (c : Char) : Bool :=
  c == '\\' || c == '=' || c == ':' || c == '#' || c == '!' || Text.isBlank c

/-- How one character is written. -/
def escapeChar : Char → List Char
  | '\t' => ['\\', 't']
  | '\n' => ['\\', 'n']
  | '\r' => ['\\', 'r']
  | '\x0c' => ['\\', 'f']
  | c => if isProtected c then ['\\', c] else [c]

def escape (text : List Char) : List Char :=
  text.flatMap escapeChar

/-- A key and a value on a line of their own, without the line feed. -/
def writeEntry (entry : String × String) : List Char :=
  escape entry.1.toList ++ '=' :: escape entry.2.toList

/-- A properties file with one line for each entry. -/
def write (entries : List (String × String)) : String :=
  String.ofList (entries.flatMap fun entry => writeEntry entry ++ ['\n'])

/-- A written character is either itself, and means nothing to the format, or a backslash and
a character that stands for it. -/
theorem escapeChar_cases (c : Char) :
    (escapeChar c = [c] ∧ isProtected c = false) ∨
      ∃ letter, escapeChar c = ['\\', letter] ∧ escapedChar letter = c ∧
        letter ≠ 'u' ∧ letter ≠ '\n' ∧ letter ≠ '\r' := by
  unfold escapeChar
  split
  · exact Or.inr ⟨'t', rfl, rfl, by decide⟩
  · exact Or.inr ⟨'n', rfl, rfl, by decide⟩
  · exact Or.inr ⟨'r', rfl, rfl, by decide⟩
  · exact Or.inr ⟨'f', rfl, rfl, by decide⟩
  · rename_i notTab notFeed notReturn notFormFeed
    by_cases isMeant : isProtected c = true
    · rw [if_pos isMeant]
      have notLetter : c ≠ 't' ∧ c ≠ 'n' ∧ c ≠ 'r' ∧ c ≠ 'f' ∧ c ≠ 'u' := by
        refine ⟨?_, ?_, ?_, ?_, ?_⟩ <;>
          · intro same
            rw [same] at isMeant
            revert isMeant
            decide
      refine Or.inr ⟨c, rfl, ?_, notLetter.2.2.2.2, notFeed, notReturn⟩
      unfold escapedChar
      split <;> simp_all
    · rw [if_neg isMeant]
      exact Or.inl ⟨rfl, by simpa using isMeant⟩

theorem not_protected_iff {c : Char} :
    isProtected c = false ↔
      c ≠ '\\' ∧ c ≠ '=' ∧ c ≠ ':' ∧ c ≠ '#' ∧ c ≠ '!' ∧ Text.isBlank c = false := by
  simp [isProtected, and_assoc]

/-- Written text begins with neither a blank nor a mark of a comment. -/
theorem escape_head {text rest : List Char} {c : Char} (split : escape text = c :: rest) :
    Text.isBlank c = false ∧ c ≠ '#' ∧ c ≠ '!' := by
  cases text with
  | nil => cases split
  | cons first others =>
      rw [escape, List.flatMap_cons] at split
      rcases escapeChar_cases first with ⟨plain, notProtected⟩ | ⟨letter, escaped, -⟩
      · rw [plain] at split
        obtain ⟨rfl, -⟩ := List.cons.inj split
        obtain ⟨-, -, -, notHash, notBang, notBlank⟩ := not_protected_iff.mp notProtected
        exact ⟨notBlank, notHash, notBang⟩
      · rw [escaped] at split
        obtain ⟨rfl, -⟩ := List.cons.inj split
        decide

/-- Written text holds no end of a line. -/
theorem not_mem_escape {text : List Char} {c : Char} (isEnd : c = '\n' ∨ c = '\r') :
    c ∉ escape text := by
  intro member
  obtain ⟨original, -, among⟩ := List.mem_flatMap.mp member
  rcases escapeChar_cases original with ⟨plain, notProtected⟩ | ⟨letter, escaped, -, meant⟩
  · rw [plain, List.mem_singleton] at among
    subst among
    have notBlank := (not_protected_iff.mp notProtected).2.2.2.2.2
    rcases isEnd with rfl | rfl <;> exact absurd notBlank (by decide)
  · rw [escaped, List.mem_cons, List.mem_singleton] at among
    rcases among with rfl | rfl
    · rcases isEnd with same | same <;> exact absurd same (by decide)
    · rcases isEnd with same | same
      · exact meant.2.1 same
      · exact meant.2.2 same

/-! ## Layers of the reader -/

/-- Written text leaves no escape open. -/
theorem leavesEscape_escape_append (text rest : List Char) :
    leavesEscape false (escape text ++ rest) = leavesEscape false rest := by
  induction text with
  | nil => rfl
  | cons c others inductionHypothesis =>
      rw [escape, List.flatMap_cons, List.append_assoc]
      rcases escapeChar_cases c with ⟨plain, notProtected⟩ | ⟨letter, escaped, -⟩
      · have notBackslash : (c == '\\') = false := by
          simpa using (not_protected_iff.mp notProtected).1
        rw [plain, List.singleton_append, leavesEscape, notBackslash]
        exact inductionHypothesis
      · rw [escaped]
        exact inductionHypothesis

/-- A key goes on with a character that is escaped or does not separate. -/
theorem splitKey_cons_of_kept {escaped : Bool} {c : Char}
    (kept : (!escaped && (isSeparatorSign c || isSeparatorBlank c)) = false)
    (rest : List Char) :
    splitKey escaped (c :: rest) =
      (c :: (splitKey (!escaped && c == '\\') rest).1,
        (splitKey (!escaped && c == '\\') rest).2) := by
  rw [splitKey, kept]
  rfl

/-- The key that is split off is the written one. -/
theorem splitKey_escape (text rest : List Char) :
    splitKey false (escape text ++ '=' :: rest) = (escape text, '=' :: rest) := by
  induction text with
  | nil => rfl
  | cons c others inductionHypothesis =>
      rw [escape, List.flatMap_cons, List.append_assoc]
      rw [escape] at inductionHypothesis
      rcases escapeChar_cases c with ⟨plain, notProtected⟩ | ⟨letter, escaped, -⟩
      · obtain ⟨notBackslash, notEquals, notColon, -, -, notBlank⟩ :=
          not_protected_iff.mp notProtected
        have notSign : isSeparatorSign c = false := by
          simp [isSeparatorSign, notEquals, notColon]
        have notSpace : isSeparatorBlank c = false := by
          by_contra isSpace
          rw [isBlank_of_isSeparatorBlank (by simpa using isSpace)] at notBlank
          cases notBlank
        have opensNothing : (!false && c == '\\') = false := by simpa using notBackslash
        rw [plain, List.singleton_append,
          splitKey_cons_of_kept (by rw [notSign, notSpace]; rfl), opensNothing,
          inductionHypothesis]
        rfl
      · rw [escaped, List.cons_append, List.singleton_append,
          splitKey_cons_of_kept (by rfl), splitKey_cons_of_kept (by rfl)]
        have closesAgain : (!(!false && '\\' == '\\') && letter == '\\') = false := rfl
        rw [closesAgain, inductionHypothesis]
        rfl

/-- After the sign a value is kept from its first character that is no separator blank. -/
theorem dropSeparator_sign {value : List Char}
    (flush : ∀ c ∈ value.head?, isSeparatorBlank c = false) :
    dropSeparator ('=' :: value) = value := by
  have kept : value.dropWhile isSeparatorBlank = value := by
    cases value with
    | nil => rfl
    | cons c rest => exact List.dropWhile_cons_of_neg (by simp [flush c rfl])
  rw [dropSeparator, List.dropWhile_cons_of_neg (by decide)]
  exact kept

theorem dropSeparator_escape (text : List Char) :
    dropSeparator ('=' :: escape text) = escape text := by
  refine dropSeparator_sign ?_
  intro c isFirst
  by_contra isSeparator
  obtain ⟨rest, written⟩ := List.head?_eq_some_iff.mp isFirst
  have blank := isBlank_of_isSeparatorBlank (Bool.not_eq_false _ ▸ isSeparator)
  rw [(escape_head written).1] at blank
  cases blank

theorem splitEntry_writeEntry (entry : String × String) :
    splitEntry (writeEntry entry) = (escape entry.1.toList, escape entry.2.toList) := by
  rw [splitEntry, writeEntry, splitKey_escape]
  exact congrArg (Prod.mk _) (dropSeparator_escape _)

theorem unescape_cons_of_ne {c : Char} (notBackslash : c ≠ '\\') (rest : List Char) :
    unescape (c :: rest) = (unescape rest).map (c :: ·) := by
  rw [unescape]
  · intro _ _ _ _ _ same
    exact absurd same notBackslash
  · intro _ same
    exact absurd same notBackslash
  · intro _ _ same
    exact absurd same notBackslash
  · intro same
    exact absurd same notBackslash

/-- Text without a backslash stands for itself. -/
theorem unescape_of_noBackslash {text : List Char} (noBackslash : '\\' ∉ text) :
    unescape text = .ok text := by
  induction text with
  | nil => rfl
  | cons c rest inductionHypothesis =>
      rw [List.mem_cons, not_or] at noBackslash
      rw [unescape_cons_of_ne (Ne.symm noBackslash.1), inductionHypothesis noBackslash.2]
      rfl

theorem unescape_backslash_of_ne {letter : Char} (notCode : letter ≠ 'u') (rest : List Char) :
    unescape ('\\' :: letter :: rest) = (unescape rest).map (escapedChar letter :: ·) := by
  rw [unescape]
  · intro _ _ _ _ _ same
    exact absurd same notCode
  · exact notCode

/-- Decoding is the inverse of writing. -/
theorem unescape_escape (text : List Char) : unescape (escape text) = .ok text := by
  induction text with
  | nil => rfl
  | cons c others inductionHypothesis =>
      rw [escape, List.flatMap_cons]
      rcases escapeChar_cases c with ⟨plain, notProtected⟩ | ⟨letter, escaped, meaning, meant⟩
      · rw [plain, List.singleton_append,
          unescape_cons_of_ne (not_protected_iff.mp notProtected).1]
        exact congrArg (Except.map (c :: ·)) inductionHypothesis
      · rw [escaped, List.cons_append, List.singleton_append,
          unescape_backslash_of_ne meant.1, meaning]
        exact congrArg (Except.map (c :: ·)) inductionHypothesis

theorem physicalLines_write (entries : List (String × String)) :
    physicalLines (write entries).toList = entries.map writeEntry := by
  rw [write, String.toList_ofList]
  induction entries with
  | nil => rfl
  | cons entry rest inductionHypothesis =>
      have noEnd (c : Char) (isEnd : c = '\n' ∨ c = '\r') : c ∉ writeEntry entry := by
        rw [writeEntry, List.mem_append, List.mem_cons, not_or, not_or]
        refine ⟨not_mem_escape isEnd, ?_, not_mem_escape isEnd⟩
        rcases isEnd with rfl | rfl <;> decide
      have noReturn : (writeEntry entry).getLast? ≠ some '\r' := fun last =>
        noEnd '\r' (Or.inr rfl) (List.mem_of_getLast? last)
      rw [List.flatMap_cons, List.append_assoc, List.singleton_append,
        physicalLines_append_feed (noEnd '\n' (Or.inl rfl)) noReturn, inductionHypothesis]
      rfl

/-- Every written line is a logical line. It starts with the key, or with the separator if the
key is empty. -/
theorem joinLines_writeEntry (entry : String × String) (lines : List (List Char)) :
    joinLines none (writeEntry entry :: lines) = writeEntry entry :: joinLines none lines := by
  have closed : leavesEscape false (writeEntry entry) = false := by
    have value := leavesEscape_escape_append entry.2.toList []
    rw [List.append_nil] at value
    rw [writeEntry, leavesEscape_escape_append]
    exact value
  rw [writeEntry] at closed ⊢
  cases written : escape entry.1.toList with
  | nil =>
      rw [written] at closed
      exact joinLines_cons (by decide) rfl closed
  | cons c rest =>
      obtain ⟨notBlank, notHash, notBang⟩ := escape_head written
      rw [written] at closed
      exact joinLines_cons notBlank (by simp [isSkipped, notHash, notBang]) closed

theorem logicalLines_write (entries : List (String × String)) :
    logicalLines (write entries).toList = entries.map writeEntry := by
  rw [logicalLines, physicalLines_write]
  induction entries with
  | nil => rfl
  | cons entry rest inductionHypothesis =>
      rw [List.map_cons, joinLines_writeEntry, inductionHypothesis]

theorem rawEntries_write (entries : List (String × String)) :
    rawEntries (write entries) =
      entries.map fun entry => (escape entry.1.toList, escape entry.2.toList) := by
  rw [rawEntries, logicalLines_write, List.map_map]
  exact List.map_congr_left fun entry _ => splitEntry_writeEntry entry

theorem decodeEntry_escape (entry : String × String) :
    decodeEntry (escape entry.1.toList, escape entry.2.toList) = .ok entry := by
  rw [decodeEntry, unescape_escape, unescape_escape]
  simp [bind, Except.bind, pure, Except.pure]

theorem decodeEntryLeniently_escape (entry : String × String) :
    decodeEntryLeniently (escape entry.1.toList, escape entry.2.toList) = entry := by
  rw [decodeEntryLeniently, unescapeLeniently, unescapeLeniently, unescape_escape,
    unescape_escape]
  simp

/-- What is written from any keys and values is read without a failure, and gives each key the
value of its last entry and no other key a value. The lenient reading gives the same map. -/
theorem parse_write (entries : List (String × String)) :
    ∃ map,
      parse (write entries) = .ok map ∧
        parseLeniently (write entries) = map ∧
          ∀ key, map.find? key = Entries.find? key entries.reverse := by
  have decoded : ((rawEntries (write entries)).mapM decodeEntry) = .ok entries := by
    rw [Traversal.mapM_eq_ok_iff, rawEntries_write, List.forall₂_map_left_iff,
      List.forall₂_same]
    exact fun entry _ => decodeEntry_escape entry
  have decodedLeniently :
      (rawEntries (write entries)).map decodeEntryLeniently = entries := by
    rw [rawEntries_write, List.map_map]
    exact (List.map_congr_left fun entry _ => decodeEntryLeniently_escape entry).trans
      (List.map_id entries)
  refine ⟨NameMap.ofList entries, ?_, ?_, NameMap.find?_ofList entries⟩
  · rw [parse, decoded]
    rfl
  · rw [parseLeniently, decodedLeniently]

end LayeredConfig.Properties
