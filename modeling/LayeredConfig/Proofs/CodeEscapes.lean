import LayeredConfig.Proofs.EscapeState
import LayeredConfig.Proofs.PropertiesRoundTrip
import LayeredConfig.Proofs.WrittenNumbers
import Mathlib.Algebra.Group.Nat.Defs

/-!
# Codes in properties files

A backslash that is not escaped itself and the letter `u` begin a code. A content is read
strictly exactly if each of its codes is readable, which are four hexadecimal digits, or three
behind a plus sign. Each code then stands for one character, and otherwise the first code that
cannot be read is reported, in the order of the lines, a key before its value.
-/

namespace LayeredConfig

namespace Numeral

/-- A character in one of the three ranges of hexadecimal digits. -/
def HexDigit (c : Char) : Prop :=
  ('0' ≤ c ∧ c ≤ '9') ∨ ('a' ≤ c ∧ c ≤ 'f') ∨ ('A' ≤ c ∧ c ≤ 'F')

instance (c : Char) : Decidable (HexDigit c) :=
  inferInstanceAs (Decidable (_ ∨ _ ∨ _))

theorem digitValue?_isSome_iff {c : Char} : (digitValue? 16 c).isSome ↔ HexDigit c := by
  have atLeast (bound : Char) : bound ≤ c ↔ bound.toNat ≤ c.toNat := Iff.rfl
  have atMost (bound : Char) : c ≤ bound ↔ c.toNat ≤ bound.toNat := Iff.rfl
  simp only [HexDigit, digitValue?, atLeast, atMost, Char.reduceToNat]
  split
  · simp; omega
  · split
    · simp; omega
    · split
      · simp; omega
      · simp; omega

theorem digitValue?_lt {base digit : Nat} {c : Char} (value : digitValue? base c = some digit) :
    digit < base := by
  have bounded := (Option.filter_eq_some_iff.mp value).2
  simpa using bounded

private theorem next_digit_le {base magnitude digit : Nat} (small : digit < base) :
    magnitude * base + digit + 1 ≤ (magnitude + 1) * base := by
  rw [Nat.add_mul]
  omega

theorem naturalOfDigits_lt {base : Nat} (positive : 0 < base) (digits : List Char) :
    naturalOfDigits base digits < base ^ digits.length := by
  have general (digits : List Char) (magnitude : Nat) :
      digits.foldl (fun n c => n * base + (digitValue? base c).getD 0) magnitude <
        (magnitude + 1) * base ^ digits.length := by
    induction digits generalizing magnitude with
    | nil => simp
    | cons c rest inductionHypothesis =>
        have small : (digitValue? base c).getD 0 < base := by
          cases value : digitValue? base c with
          | none => exact positive
          | some digit => exact digitValue?_lt value
        rw [List.foldl_cons, List.length_cons, Nat.pow_succ', ← Nat.mul_assoc]
        exact Nat.lt_of_lt_of_le (inductionHypothesis _)
          (Nat.mul_le_mul_right _ (next_digit_le small))
  simpa [naturalOfDigits] using general digits 0

end Numeral

namespace Properties

/-- Four hexadecimal digits. -/
def IsCode (digits : List Char) : Prop :=
  digits.length = 4 ∧ ∀ c ∈ digits, Numeral.HexDigit c

/-- Three hexadecimal digits behind a plus sign. -/
def IsSignedCode (digits : List Char) : Prop :=
  digits.head? = some '+' ∧ IsCode ('0' :: digits.tail)

/-- What is read as a code. -/
def IsReadable (digits : List Char) : Prop :=
  IsCode digits ∨ IsSignedCode digits

/-- The character that digits stand for: the one with that code, or the replacement character in
place of a surrogate. -/
def StandsFor (digits : List Char) (c : Char) : Prop :=
  let code := Numeral.naturalOfDigits 16 digits
  c.toNat = if 0xD800 ≤ code ∧ code ≤ 0xDFFF then 0xFFFD else code

/-- Four characters are read digit by digit. A plus sign at their beginning is passed over, and
a minus sign is taken for a digit. -/
private theorem readWhole_four (a b c d : Char) :
    Numeral.readWhole 16 0 0xFFFFFFFF [a, b, c, d] =
      (Numeral.readDigits 16 0xFFFFFFFF .tooLarge 0
        (if a = '+' then [b, c, d] else [a, b, c, d])).map Int.ofNat := by
  by_cases plus : a = '+'
  · subst plus
    rfl
  · rw [if_neg plus]
    by_cases minus : a = '-'
    · subst minus
      rfl
    · rw [Numeral.readWhole] <;> simp_all

private theorem readDigits_hex_eq_ok_iff {digits : List Char} (short : digits.length ≤ 4)
    {code : Nat} :
    Numeral.readDigits 16 0xFFFFFFFF .tooLarge 0 digits = .ok code ↔
      (∀ c ∈ digits, Numeral.HexDigit c) ∧ code = Numeral.naturalOfDigits 16 digits := by
  have within : Numeral.naturalOfDigits 16 digits ≤ 0xFFFFFFFF := by
    have small := Numeral.naturalOfDigits_lt (show 0 < 16 by omega) digits
    have room := Nat.pow_le_pow_right (show 0 < 16 by omega) short
    omega
  simp only [Numeral.readDigits_eq_ok_iff (show 0 < 16 by omega) (Nat.zero_le _),
    Numeral.digitValue?_isSome_iff]
  apply and_congr_right
  intro _
  constructor
  · intro read
    exact read.1
  · intro same
    refine ⟨same, ?_⟩
    rw [same]
    exact within

/-- Codes are read by the reader of whole numbers, which admits a plus sign. -/
theorem escapeCode?_eq_some_iff {a b c d : Char} {code : Nat} :
    escapeCode? [a, b, c, d] = some code ↔
      IsReadable [a, b, c, d] ∧ code = Numeral.naturalOfDigits 16 [a, b, c, d] := by
  have read : escapeCode? [a, b, c, d] = some code ↔
      Numeral.readDigits 16 0xFFFFFFFF .tooLarge 0
        (if a = '+' then [b, c, d] else [a, b, c, d]) = .ok code := by
    rw [escapeCode?, readWhole_four]
    cases Numeral.readDigits 16 0xFFFFFFFF .tooLarge 0
      (if a = '+' then [b, c, d] else [a, b, c, d]) <;> simp [Except.map]
  rw [read]
  by_cases plus : a = '+'
  · subst plus
    have sign : ¬ Numeral.HexDigit '+' := by decide
    have zero : Numeral.HexDigit '0' := by decide
    have same : Numeral.naturalOfDigits 16 ['+', b, c, d] =
        Numeral.naturalOfDigits 16 [b, c, d] := rfl
    rw [if_pos rfl, readDigits_hex_eq_ok_iff (by simp), same]
    simp [IsReadable, IsCode, IsSignedCode, sign, zero]
  · rw [if_neg plus, readDigits_hex_eq_ok_iff (by simp)]
    simp [IsReadable, IsCode, IsSignedCode, plus]

theorem standsFor_charOfCode {digits : List Char} (short : digits.length = 4) :
    StandsFor digits (charOfCode (Numeral.naturalOfDigits 16 digits)) := by
  have bound : Numeral.naturalOfDigits 16 digits < 16 ^ digits.length :=
    Numeral.naturalOfDigits_lt (by omega) digits
  rw [short] at bound
  rw [StandsFor, charOfCode]
  generalize Numeral.naturalOfDigits 16 digits = code at bound ⊢
  by_cases valid : code.isValidChar
  · have notSurrogate : ¬ (0xD800 ≤ code ∧ code ≤ 0xDFFF) := by
      rcases valid with below | above <;> omega
    rw [if_pos valid, if_neg notSurrogate]
    rw [Char.ofNat, dif_pos valid]
    rfl
  · have surrogate : 0xD800 ≤ code ∧ code ≤ 0xDFFF := by
      simp only [Nat.isValidChar] at valid
      omega
    rw [if_neg valid, if_pos surrogate]
    rfl

/-- Behind a part of the text stand a backslash that is not escaped and the letter of a code, and
then the rest of the text. -/
def CodeAt (text before after : List Char) : Prop :=
  text = before ++ '\\' :: 'u' :: after ∧ leavesEscape false before = false

theorem CodeAt.append {token rest before after : List Char}
    (closed : leavesEscape false token = false) (code : CodeAt rest before after) :
    CodeAt (token ++ rest) (token ++ before) after := by
  refine ⟨by rw [code.1, List.append_assoc], ?_⟩
  rw [leavesEscape_append, closed]
  exact code.2

theorem not_codeAt_nil (before after : List Char) : ¬ CodeAt [] before after := by
  intro code
  have split := code.1
  simp at split

/-- No code begins in front of a character other than a backslash. -/
theorem CodeAt.of_cons {c : Char} {rest before after : List Char} (notBackslash : c ≠ '\\')
    (code : CodeAt (c :: rest) before after) :
    ∃ more, before = c :: more ∧ CodeAt rest more after := by
  obtain ⟨split, closed⟩ := code
  cases before with
  | nil => exact absurd (List.cons.inj split).1 notBackslash
  | cons first more =>
      obtain ⟨rfl, tail⟩ := List.cons.inj split
      have plain : (!false && c == '\\') = false := by simpa using notBackslash
      rw [leavesEscape, plain] at closed
      exact ⟨more, rfl, tail, closed⟩

theorem CodeAt.of_append (plain : List Char) {rest before after : List Char}
    (noBackslash : '\\' ∉ plain) (code : CodeAt (plain ++ rest) before after) :
    ∃ more, before = plain ++ more ∧ CodeAt rest more after := by
  induction plain generalizing before with
  | nil => exact ⟨before, rfl, code⟩
  | cons c others inductionHypothesis =>
      rw [List.mem_cons, not_or] at noBackslash
      obtain ⟨tail, rfl, tailCode⟩ := code.of_cons (Ne.symm noBackslash.1)
      obtain ⟨more, rfl, moreCode⟩ := inductionHypothesis noBackslash.2 tailCode
      exact ⟨more, rfl, moreCode⟩

/-- A code begins in front of a backslash and a character only if that character is the letter of
a code, and none begins in between. -/
theorem CodeAt.of_backslash {letter : Char} {rest before after : List Char}
    (code : CodeAt ('\\' :: letter :: rest) before after) :
    (letter = 'u' ∧ before = [] ∧ after = rest) ∨
      ∃ more, before = '\\' :: letter :: more ∧ CodeAt rest more after := by
  obtain ⟨split, closed⟩ := code
  rcases before with _ | ⟨first, _ | ⟨second, more⟩⟩
  · obtain ⟨-, tail⟩ := List.cons.inj split
    obtain ⟨isCode, same⟩ := List.cons.inj tail
    exact Or.inl ⟨isCode, rfl, same.symm⟩
  · obtain ⟨rfl, -⟩ := List.cons.inj split
    cases closed
  · obtain ⟨rfl, tail⟩ := List.cons.inj split
    obtain ⟨rfl, same⟩ := List.cons.inj tail
    exact Or.inr ⟨more, rfl, same, closed⟩

/-! ## Readings of a text -/

/-- All codes of the text are readable. -/
def WellFormed (text : List Char) : Prop :=
  ∀ before after, CodeAt text before after → IsReadable (after.take 4)

/-- The first code of the text that is not readable. -/
def FirstMalformed (text : List Char) (malformed : MalformedEscape) : Prop :=
  ∃ before after,
    CodeAt text before after ∧ ¬ IsReadable (after.take 4) ∧
      malformed.digits = after.take 4 ∧
        ∀ earlier later, CodeAt text earlier later → earlier.length < before.length →
          IsReadable (later.take 4)

/-- Every code of the text was taken for the character it stands for, between the readings of
what is before it and what is after it. -/
def DecodesCodes (text decoded : List Char) : Prop :=
  ∀ before after, CodeAt text before after →
    IsReadable (after.take 4) ∧
      ∃ first c last,
        unescape before = .ok first ∧ unescape (after.drop 4) = .ok last ∧
          decoded = first ++ c :: last ∧ StandsFor (after.take 4) c

/-- What a reading says of the codes of a text. -/
def Reads (text : List Char) : Except MalformedEscape (List Char) → Prop
  | .ok decoded => DecodesCodes text decoded
  | .error malformed => FirstMalformed text malformed

/-- A token in front of a text, which is read as one character and is no code, or a readable
one. -/
theorem Reads.append (token : List Char) {rest : List Char} {c : Char}
    (closed : leavesEscape false token = false)
    (decodes : ∀ tail, unescape (token ++ tail) = (unescape tail).map (c :: ·))
    (codes : ∀ before after, CodeAt (token ++ rest) before after →
      (before = [] ∧ after.drop 4 = rest ∧ IsReadable (after.take 4) ∧
        StandsFor (after.take 4) c) ∨
        ∃ more, before = token ++ more ∧ CodeAt rest more after)
    (reads : Reads rest (unescape rest)) :
    Reads (token ++ rest) ((unescape rest).map (c :: ·)) := by
  cases read : unescape rest with
  | ok decoded =>
      rw [read] at reads
      intro before after code
      rcases codes before after code with ⟨rfl, remainder, readable, stands⟩ | ⟨more, rfl, inRest⟩
      · exact ⟨readable, [], c, decoded, rfl, by rw [remainder, read], rfl, stands⟩
      · obtain ⟨readable, first, inner, last, beforeRead, afterRead, rfl, stands⟩ :=
          reads more after inRest
        refine ⟨readable, c :: first, inner, last, ?_, afterRead, rfl, stands⟩
        rw [decodes, beforeRead]
        rfl
  | error malformed =>
      rw [read] at reads
      obtain ⟨before, after, code, notReadable, digits, first⟩ := reads
      refine ⟨token ++ before, after, code.append closed, notReadable, digits, ?_⟩
      intro earlier later earlierCode shorter
      rcases codes earlier later earlierCode with ⟨-, -, readable, -⟩ | ⟨more, rfl, inRest⟩
      · exact readable
      · apply first more later inRest
        simpa using shorter

theorem IsReadable.noBackslash {digits : List Char} (readable : IsReadable digits) :
    '\\' ∉ digits := by
  have notDigit : ¬ Numeral.HexDigit '\\' := by decide
  intro member
  rcases readable with code | ⟨sign, code⟩
  · exact notDigit (code.2 _ member)
  · cases digits with
    | nil => cases member
    | cons first rest =>
        rcases List.mem_cons.mp member with rfl | inRest
        · simp at sign
        · exact notDigit (code.2 _ (List.mem_cons_of_mem _ inRest))

theorem IsReadable.length_eq {digits : List Char} (readable : IsReadable digits) :
    digits.length = 4 := by
  rcases readable with code | ⟨sign, code⟩
  · exact code.1
  · cases digits with
    | nil => cases sign
    | cons first rest => exact code.1

theorem firstMalformed_start {text : List Char} (notReadable : ¬ IsReadable (text.take 4)) :
    FirstMalformed ('\\' :: 'u' :: text) ⟨text.take 4⟩ :=
  ⟨[], text, ⟨rfl, rfl⟩, notReadable, rfl, fun _ _ _ shorter => absurd shorter (Nat.not_lt_zero _)⟩

/-- What is read as neither a pair nor a backslash at the end is no backslash. -/
theorem ne_backslash_of_token {c : Char} {rest : List Char}
    (notPair : ∀ letter others, c = '\\' → rest = letter :: others → False)
    (notLast : c = '\\' → rest = [] → False) : c ≠ '\\' := by
  intro same
  cases rest with
  | nil => exact notLast same rfl
  | cons next others => exact notPair next others same rfl

/-- A reading decodes all codes of a text, or reports the first that is malformed. By induction
along the reading, which takes one token after the other. -/
theorem reads_unescape (text : List Char) : Reads text (unescape text) := by
  fun_induction unescape text with
  | case1 => exact fun before after code => absurd code (not_codeAt_nil before after)
  | case2 a b c d rest code given inductionHypothesis =>
      obtain ⟨readable, rfl⟩ := escapeCode?_eq_some_iff.mp given
      refine inductionHypothesis.append ['\\', 'u', a, b, c, d] ?_ ?_ ?_
      · have digitsClosed := leavesEscape_of_noBackslash readable.noBackslash
        exact digitsClosed
      · intro tail
        simp only [List.cons_append, List.nil_append, unescape, given]
      · intro before after codeAt
        rcases codeAt.of_backslash with ⟨-, rfl, rfl⟩ | ⟨more, rfl, inDigits⟩
        · exact Or.inl ⟨rfl, rfl, readable, standsFor_charOfCode rfl⟩
        · obtain ⟨further, rfl, inRest⟩ := inDigits.of_append [a, b, c, d] readable.noBackslash
          exact Or.inr ⟨further, rfl, inRest⟩
  | case3 a b c d rest none =>
      have notReadable : ¬ IsReadable ((a :: b :: c :: d :: rest).take 4) := by
        intro readable
        have given := escapeCode?_eq_some_iff.mpr ⟨readable, rfl⟩
        rw [none] at given
        cases given
      exact firstMalformed_start notReadable
  | case4 digits incomplete =>
      have short : digits.length < 4 := by
        rcases digits with _ | ⟨a, _ | ⟨b, _ | ⟨c, _ | ⟨d, rest⟩⟩⟩⟩
        case cons.cons.cons.cons => exact absurd rfl (incomplete a b c d rest)
        all_goals simp
      have whole : digits.take 4 = digits := List.take_of_length_le (Nat.le_of_lt short)
      have notReadable : ¬ IsReadable (digits.take 4) := by
        intro readable
        rw [whole] at readable
        exact Nat.ne_of_lt short readable.length_eq
      have first := firstMalformed_start notReadable
      rwa [whole] at first
  | case5 letter rest _ notCode inductionHypothesis =>
      refine inductionHypothesis.append ['\\', letter] ?_
        (unescape_backslash_of_ne notCode) ?_
      · rfl
      · intro before after codeAt
        rcases codeAt.of_backslash with ⟨isCode, -, -⟩ | inRest
        · exact absurd isCode notCode
        · exact Or.inr inRest
  | case6 =>
      intro before after codeAt
      have split := codeAt.1
      rcases before with _ | ⟨first, _ | ⟨second, more⟩⟩ <;> simp at split
  | case7 c rest _ _ notPair notLast inductionHypothesis =>
      have notBackslash := ne_backslash_of_token notPair notLast
      refine inductionHypothesis.append [c] ?_ (unescape_cons_of_ne notBackslash) ?_
      · simpa [leavesEscape] using notBackslash
      · intro before after codeAt
        exact Or.inr (codeAt.of_cons notBackslash)

/-- Codes at places of one length are the same. -/
theorem CodeAt.unique {text before after other further : List Char}
    (code : CodeAt text before after) (otherCode : CodeAt text other further)
    (sameLength : before.length = other.length) : before = other ∧ after = further := by
  obtain ⟨rfl, tails⟩ := List.append_inj (code.1.symm.trans otherCode.1) sameLength
  exact ⟨rfl, (List.cons.inj (List.cons.inj tails).2).2⟩

theorem FirstMalformed.unique {text : List Char} {left right : MalformedEscape}
    (leftFirst : FirstMalformed text left) (rightFirst : FirstMalformed text right) :
    left = right := by
  obtain ⟨before, after, code, notReadable, digits, first⟩ := leftFirst
  obtain ⟨other, further, otherCode, otherNotReadable, otherDigits, otherFirst⟩ := rightFirst
  rcases Nat.lt_trichotomy before.length other.length with less | same | greater
  · exact absurd (otherFirst before after code less) notReadable
  · obtain ⟨rfl, rfl⟩ := code.unique otherCode same
    cases left
    cases right
    exact congrArg MalformedEscape.mk (digits.trans otherDigits.symm)
  · exact absurd (first other further otherCode greater) otherNotReadable

theorem unescape_eq_error_iff {text : List Char} {malformed : MalformedEscape} :
    unescape text = .error malformed ↔ FirstMalformed text malformed := by
  have reads := reads_unescape text
  cases read : unescape text with
  | ok decoded =>
      rw [read] at reads
      constructor
      · intro failed
        cases failed
      · intro first
        obtain ⟨before, after, code, notReadable, -⟩ := first
        exact absurd (reads before after code).1 notReadable
  | error other =>
      rw [read] at reads
      constructor
      · intro same
        rw [← Except.error.inj same]
        exact reads
      · intro first
        rw [FirstMalformed.unique reads first]

theorem decodesCodes_of_unescape {text decoded : List Char}
    (read : unescape text = .ok decoded) : DecodesCodes text decoded := by
  have reads := reads_unescape text
  rwa [read] at reads

/-- A text can be decoded exactly if it is well-formed. -/
theorem exists_unescape_iff {text : List Char} :
    (∃ decoded, unescape text = .ok decoded) ↔ WellFormed text := by
  constructor
  · intro succeeded
    obtain ⟨decoded, read⟩ := succeeded
    exact fun before after code => (decodesCodes_of_unescape read before after code).1
  · intro wellFormed
    cases read : unescape text with
    | ok decoded => exact ⟨decoded, rfl⟩
    | error malformed =>
        obtain ⟨before, after, code, notReadable, -⟩ := unescape_eq_error_iff.mp read
        exact absurd (wellFormed before after code) notReadable

/-- The escaped keys and values of a content, line by line, a key before its value. -/
def rawTexts (content : String) : List (List Char) :=
  (rawEntries content).flatMap fun entry => [entry.1, entry.2]

open Traversal in
/-- A strict reading comes to the failures of the texts in their order. -/
theorem parse_failsFirst (content : String) :
    FailsFirst (parse content)
      ((rawTexts content).filterMap fun text => failure? (unescape text)) := by
  have entryFails (raw : List Char × List Char) : FailsFirst (decodeEntry raw)
      ((failure? (unescape raw.1)).toList ++ (failure? (unescape raw.2)).toList) :=
    (failsFirst_self (unescape raw.1)).bind fun key =>
      (failsFirst_self (unescape raw.2)).bind_pure fun value =>
        (String.ofList key, String.ofList value)
  have sameFailures : (rawTexts content).filterMap (fun text => failure? (unescape text)) =
      (rawEntries content).flatMap fun raw =>
        (failure? (unescape raw.1)).toList ++ (failure? (unescape raw.2)).toList := by
    rw [rawTexts, List.filterMap_eq_flatMap_toList, List.flatMap_assoc]
    simp only [List.flatMap_cons, List.flatMap_nil, List.append_nil]
  rw [sameFailures]
  exact (failsFirst_mapM entryFails (rawEntries content)).map NameMap.ofList

/-- A content is read strictly exactly if all its codes are readable. -/
theorem exists_parse_iff {content : String} :
    (∃ properties, parse content = .ok properties) ↔
      ∀ text ∈ rawTexts content, WellFormed text := by
  rw [(parse_failsFirst content).exists_ok_iff, List.filterMap_eq_nil_iff]
  simp only [Traversal.failure?_eq_none_iff, exists_unescape_iff]

/-- A strict reading fails with the first code that cannot be read, in the first text that holds
such a code. -/
theorem parse_eq_error_iff {content : String} {malformed : MalformedEscape} :
    parse content = .error malformed ↔
      ∃ earlier text later, rawTexts content = earlier ++ text :: later ∧
        (∀ other ∈ earlier, WellFormed other) ∧ FirstMalformed text malformed := by
  rw [(parse_failsFirst content).eq_error_iff, List.head?_filterMap, List.findSome?_eq_some_iff]
  simp only [Traversal.failure?_eq_none_iff, Traversal.failure?_eq_some_iff,
    exists_unescape_iff, unescape_eq_error_iff]
  constructor
  · intro found
    obtain ⟨earlier, text, later, split, isFirst, wellFormed⟩ := found
    exact ⟨earlier, text, later, split, wellFormed, isFirst⟩
  · intro found
    obtain ⟨earlier, text, later, split, wellFormed, isFirst⟩ := found
    exact ⟨earlier, text, later, split, isFirst, wellFormed⟩

/-- An entry is the reading of an escaped key and an escaped value, in which all codes are
decoded. -/
structure EntryReads (raw : List Char × List Char) (entry : String × String) : Prop where
  key : unescape raw.1 = .ok entry.1.toList
  value : unescape raw.2 = .ok entry.2.toList
  keyCodes : DecodesCodes raw.1 entry.1.toList
  valueCodes : DecodesCodes raw.2 entry.2.toList

theorem entryReads_of_decodeEntry {raw : List Char × List Char} {entry : String × String}
    (decoded : decodeEntry raw = .ok entry) : EntryReads raw entry := by
  obtain ⟨key, keyRead, remainder⟩ := Traversal.bind_eq_ok_iff.mp decoded
  obtain ⟨value, valueRead, pair⟩ := Traversal.bind_eq_ok_iff.mp remainder
  obtain rfl := Except.ok.inj pair
  rw [← String.toList_ofList (l := key)] at keyRead
  rw [← String.toList_ofList (l := value)] at valueRead
  exact ⟨keyRead, valueRead, decodesCodes_of_unescape keyRead, decodesCodes_of_unescape valueRead⟩

/-- A content is read strictly exactly if behind every backslash that is not escaped and the
letter of a code stand four hexadecimal digits, or three behind a plus sign. What is read are
the entries line by line, with every code decoded to the character it stands for. Otherwise the
first code that cannot be read is reported, in the order of the lines, a key before its
value. -/
theorem parse_reads_codes (content : String) :
    ((∃ properties, parse content = .ok properties) ↔
      ∀ text ∈ rawTexts content, ∀ before after, CodeAt text before after →
        IsCode (after.take 4) ∨ IsSignedCode (after.take 4)) ∧
    (∀ properties, parse content = .ok properties →
      ∃ entries, List.Forall₂ EntryReads (rawEntries content) entries ∧
        properties = NameMap.ofList entries) ∧
    ∀ malformed, parse content = .error malformed ↔
      ∃ earlier text later, rawTexts content = earlier ++ text :: later ∧
        (∀ other ∈ earlier, WellFormed other) ∧ FirstMalformed text malformed := by
  refine ⟨exists_parse_iff, ?_, fun malformed => parse_eq_error_iff⟩
  intro properties read
  obtain ⟨entries, decoded, collected⟩ := Traversal.map_eq_ok_iff.mp read
  have paired := Traversal.mapM_eq_ok_iff.mp decoded
  exact ⟨entries, paired.imp fun _ _ => entryReads_of_decodeEntry, collected.symm⟩

/-- A plus sign in the place of the first digit is passed over: a content is read although it
holds a code of other than four hexadecimal digits. -/
theorem parse_accepts_signed_code :
    parse "k=\\u+12a\n" = .ok (NameMap.ofList [("k", "Ī")]) ∧
    ¬ ((∃ properties, parse "k=\\u+12a\n" = .ok properties) ↔
      ∀ text ∈ rawTexts "k=\\u+12a\n", ∀ before after, CodeAt text before after →
        IsCode (after.take 4)) := by
  have read : parse "k=\\u+12a\n" = .ok (NameMap.ofList [("k", "Ī")]) := by rfl
  refine ⟨read, fun onlyCodes => ?_⟩
  have member : ['\\', 'u', '+', '1', '2', 'a'] ∈ rawTexts "k=\\u+12a\n" := by decide +kernel
  have digits := onlyCodes.mp ⟨_, read⟩ _ member [] ['+', '1', '2', 'a'] ⟨rfl, rfl⟩
  have sign : ¬ Numeral.HexDigit '+' := by decide
  exact sign (digits.2 '+' List.mem_cons_self)

end Properties

end LayeredConfig
