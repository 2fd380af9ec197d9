import LayeredConfig.Proofs.PropertiesRoundTrip

/-!
A logical line is a key, a separator and a value, put together without loss. A few conditions on
the characters lay down what may stand in each of the three, and no line can be taken apart in
two ways that meet them. The one way there is is the one that a scan from the left finds.
-/

namespace LayeredConfig.Properties

/-- The characters that end a key where no backslash escapes them. -/
def Separates (c : Char) : Prop :=
  isSeparatorSign c = true ∨ isSeparatorBlank c = true

/-- Only escaped characters of the text separate, if its first character is escaped or not. -/
def EscapesSeparators (escaped : Bool) (text : List Char) : Prop :=
  ∀ before c after, text = before ++ c :: after → Separates c →
    leavesEscape escaped before = true

theorem escapesSeparators_nil (escaped : Bool) : EscapesSeparators escaped [] := by
  intro before c after split
  simp at split

theorem escapesSeparators_cons_iff {escaped : Bool} {c : Char} {rest : List Char} :
    EscapesSeparators escaped (c :: rest) ↔
      (Separates c → escaped = true) ∧ EscapesSeparators (!escaped && c == '\\') rest := by
  constructor
  · intro escapes
    refine ⟨fun separates => escapes [] c rest rfl separates, ?_⟩
    intro before d after split separates
    exact escapes (c :: before) d after (by rw [split, List.cons_append]) separates
  · intro both
    obtain ⟨first, others⟩ := both
    intro before d after split separates
    cases before with
    | nil =>
        obtain ⟨rfl, -⟩ := List.cons.inj split
        exact first separates
    | cons head more =>
        obtain ⟨rfl, tail⟩ := List.cons.inj split
        exact others more d after tail separates

theorem splitKey_cons_eq_iff {escaped : Bool} {c : Char}
    (kept : (!escaped && (isSeparatorSign c || isSeparatorBlank c)) = false)
    {others key rest : List Char} :
    splitKey escaped (c :: others) = (key, rest) ↔
      ∃ more, key = c :: more ∧ splitKey (!escaped && c == '\\') others = (more, rest) := by
  rw [splitKey_cons_of_kept kept]
  constructor
  · intro same
    obtain ⟨rfl, rfl⟩ := Prod.mk.inj same
    exact ⟨_, rfl, rfl⟩
  · intro found
    obtain ⟨more, rfl, split⟩ := found
    rw [split]

/-- A text is cut at the first character that separates and is not escaped. By induction on the
text, with the state of the escape generalised, which decides at every character whether the key
goes on with it. -/
theorem splitKey_eq_iff {escaped : Bool} {text key rest : List Char} :
    splitKey escaped text = (key, rest) ↔
      text = key ++ rest ∧ EscapesSeparators escaped key ∧
        ∀ c ∈ rest.head?, Separates c ∧ leavesEscape escaped key = false := by
  induction text generalizing escaped key with
  | nil =>
      rw [splitKey, Prod.mk.injEq]
      constructor
      · intro same
        obtain ⟨rfl, rfl⟩ := same
        exact ⟨rfl, escapesSeparators_nil escaped, by simp⟩
      · intro parts
        obtain ⟨whole, -⟩ := parts
        obtain ⟨rfl, rfl⟩ := List.append_eq_nil_iff.mp whole.symm
        exact ⟨rfl, rfl⟩
  | cons c others inductionHypothesis =>
      by_cases cut : (!escaped && (isSeparatorSign c || isSeparatorBlank c)) = true
      · obtain ⟨rfl, separates⟩ : escaped = false ∧ Separates c := by
          simpa [Separates] using cut
        rw [splitKey, if_pos cut, Prod.mk.injEq]
        constructor
        · intro same
          obtain ⟨rfl, rfl⟩ := same
          refine ⟨rfl, escapesSeparators_nil false, ?_⟩
          intro first isFirst
          obtain rfl : c = first := Option.some.inj isFirst
          exact ⟨separates, rfl⟩
        · intro parts
          obtain ⟨whole, escapes, -⟩ := parts
          cases key with
          | nil =>
              exact ⟨rfl, whole⟩
          | cons first more =>
              obtain ⟨rfl, -⟩ := List.cons.inj whole
              exact absurd ((escapesSeparators_cons_iff.mp escapes).1 separates)
                Bool.false_ne_true
      · have kept : (!escaped && (isSeparatorSign c || isSeparatorBlank c)) = false := by
          simpa using cut
        have goesOn : Separates c → escaped = true := by
          intro separates
          cases escaped with
          | true =>
              rfl
          | false =>
              exact absurd separates (by simpa [Separates] using cut)
        rw [splitKey_cons_eq_iff kept]
        constructor
        · intro found
          obtain ⟨more, rfl, split⟩ := found
          obtain ⟨whole, escapes, ends⟩ := inductionHypothesis.mp split
          refine ⟨?_, escapesSeparators_cons_iff.mpr ⟨goesOn, escapes⟩, ends⟩
          rw [whole, List.cons_append]
        · intro parts
          obtain ⟨whole, escapes, ends⟩ := parts
          cases key with
          | nil =>
              -- the character would begin the rest, although it is escaped or does not separate
              obtain ⟨separates, closed⟩ := ends c (by rw [← List.nil_append rest, ← whole]; rfl)
              rw [goesOn separates] at closed
              cases closed
          | cons first more =>
              obtain ⟨rfl, tail⟩ := List.cons.inj whole
              have further := (escapesSeparators_cons_iff.mp escapes).2
              exact ⟨more, rfl, inductionHypothesis.mpr ⟨tail, further, ends⟩⟩

/-- Blanks with at most one equals sign or colon among them. -/
inductive IsSeparator : List Char → Prop
  | blanks {text : List Char} :
      (∀ c ∈ text, isSeparatorBlank c = true) → IsSeparator text
  | sign {before after : List Char} {c : Char} :
      (∀ c ∈ before, isSeparatorBlank c = true) → isSeparatorSign c = true →
        (∀ c ∈ after, isSeparatorBlank c = true) → IsSeparator (before ++ c :: after)

theorem not_blank_of_sign {c : Char} (sign : isSeparatorSign c = true) :
    isSeparatorBlank c = false := by
  simp only [isSeparatorSign, Bool.or_eq_true, beq_iff_eq] at sign
  rcases sign with rfl | rfl <;> rfl

theorem IsSeparator.separates {separator : List Char} (isSeparator : IsSeparator separator) :
    ∀ c ∈ separator, Separates c := by
  intro c member
  cases isSeparator with
  | blanks blanks =>
      exact Or.inr (blanks c member)
  | sign before sign after =>
      rw [List.mem_append, List.mem_cons] at member
      rcases member with inBefore | rfl | inAfter
      · exact Or.inr (before c inBefore)
      · exact Or.inl sign
      · exact Or.inr (after c inAfter)

/-- A value begins with no blank, and with a sign only behind a separator with a sign. -/
def Follows (value separator : List Char) : Prop :=
  ∀ c ∈ value.head?, isSeparatorBlank c = false ∧
    (isSeparatorSign c = true → ∃ sign ∈ separator, isSeparatorSign sign = true)

theorem exists_blanks (text : List Char) :
    ∃ blanks rest, text = blanks ++ rest ∧ (∀ c ∈ blanks, isSeparatorBlank c = true) ∧
      ∀ c ∈ rest.head?, isSeparatorBlank c = false := by
  refine ⟨text.takeWhile isSeparatorBlank, text.dropWhile isSeparatorBlank,
    List.takeWhile_append_dropWhile.symm, ?_, ?_⟩
  · exact List.all_eq_true.mp List.all_takeWhile
  · intro c isFirst
    have stopped := List.head?_dropWhile_not isSeparatorBlank text
    rw [Option.mem_def.mp isFirst] at stopped
    simpa using stopped

/-- Every text begins with a separator that could not be longer. -/
theorem exists_separator (text : List Char) :
    ∃ separator value, text = separator ++ value ∧ IsSeparator separator ∧
      Follows value separator := by
  obtain ⟨blanks, rest, rfl, isBlank, restFlush⟩ := exists_blanks text
  cases rest with
  | nil =>
      exact ⟨blanks, [], rfl, .blanks isBlank, by simp [Follows]⟩
  | cons c others =>
      by_cases sign : isSeparatorSign c = true
      · obtain ⟨after, value, rfl, isAfterBlank, flush⟩ := exists_blanks others
        refine ⟨blanks ++ c :: after, value, ?_, .sign isBlank sign isAfterBlank, ?_⟩
        · rw [List.append_assoc, List.cons_append]
        · intro first isFirst
          refine ⟨flush first isFirst, fun _ => ⟨c, ?_, sign⟩⟩
          exact List.mem_append_right blanks List.mem_cons_self
      · refine ⟨blanks, c :: others, rfl, .blanks isBlank, ?_⟩
        intro first isFirst
        obtain rfl : c = first := Option.some.inj isFirst
        exact ⟨restFlush c rfl, fun isSign => absurd isSign sign⟩

private theorem dropWhile_blanks_append {blanks rest : List Char}
    (isBlank : ∀ c ∈ blanks, isSeparatorBlank c = true)
    (flush : ∀ c ∈ rest.head?, isSeparatorBlank c = false) :
    (blanks ++ rest).dropWhile isSeparatorBlank = rest := by
  rw [List.dropWhile_append_of_pos isBlank]
  cases rest with
  | nil =>
      rfl
  | cons c others =>
      exact List.dropWhile_cons_of_neg (by simp [flush c rfl])

theorem dropSeparator_append {separator value : List Char} (isSeparator : IsSeparator separator)
    (follows : Follows value separator) : dropSeparator (separator ++ value) = value := by
  have flush : ∀ c ∈ value.head?, isSeparatorBlank c = false :=
    fun c isFirst => (follows c isFirst).1
  cases isSeparator with
  | blanks blanks =>
      rw [dropSeparator, dropWhile_blanks_append blanks flush]
      cases value with
      | nil =>
          rfl
      | cons c rest =>
          have notSign : isSeparatorSign c = false := by
            by_contra sign
            rw [Bool.not_eq_false] at sign
            obtain ⟨other, member, otherSign⟩ := (follows c rfl).2 sign
            have notBlank := not_blank_of_sign otherSign
            rw [blanks other member] at notBlank
            cases notBlank
          simp only [notSign, Bool.false_eq_true, if_false]
  | @sign before after c isBlank sign isAfterBlank =>
      have stops : ∀ first ∈ (c :: (after ++ value)).head?, isSeparatorBlank first = false := by
        intro first isFirst
        obtain rfl : c = first := Option.some.inj isFirst
        exact not_blank_of_sign sign
      rw [List.append_assoc, List.cons_append, dropSeparator,
        dropWhile_blanks_append isBlank stops]
      simp only [sign, if_true]
      exact dropWhile_blanks_append isAfterBlank flush

/-- What is dropped is a separator that could not be longer. -/
theorem dropSeparator_eq_iff {text value : List Char} :
    dropSeparator text = value ↔
      ∃ separator, text = separator ++ value ∧ IsSeparator separator ∧
        Follows value separator := by
  constructor
  · intro dropped
    obtain ⟨separator, remainder, rfl, isSeparator, follows⟩ := exists_separator text
    rw [dropSeparator_append isSeparator follows] at dropped
    subst dropped
    exact ⟨separator, rfl, isSeparator, follows⟩
  · intro found
    obtain ⟨separator, rfl, isSeparator, follows⟩ := found
    exact dropSeparator_append isSeparator follows

/-! ## Lines -/

/-- A line is a key, a separator and a value. In the key only escaped characters separate, and
the separator begins where no escape is open. It is empty only where there is nothing left to
separate. -/
structure IsEntry (line key separator value : List Char) : Prop where
  line_eq : line = key ++ separator ++ value
  isSeparator : IsSeparator separator
  escaped : ∀ before c after, key = before ++ c :: after → Separates c →
    trailingBackslashes before % 2 = 1
  closed : key = line ∨ trailingBackslashes key % 2 = 0
  separated : separator = [] → key = line
  flush : ∀ c ∈ value.head?, isSeparatorBlank c = false
  signed : ∀ c ∈ value.head?, isSeparatorSign c = true →
    ∃ sign ∈ separator, isSeparatorSign sign = true

theorem escapesSeparators_iff {key : List Char} :
    EscapesSeparators false key ↔
      ∀ before c after, key = before ++ c :: after → Separates c →
        trailingBackslashes before % 2 = 1 := by
  simp only [EscapesSeparators, ← continues_eq_leavesEscape, continues, beq_iff_eq]

theorem closed_iff {key : List Char} :
    leavesEscape false key = false ↔ trailingBackslashes key % 2 = 0 := by
  rw [← continues_eq_leavesEscape, continues, beq_eq_false_iff_ne]
  omega

/-- Behind an empty separator only an empty value can begin with a character that separates. -/
theorem Follows.eq_nil {value : List Char} (follows : Follows value [])
    (separates : ∀ c ∈ value.head?, Separates c) : value = [] := by
  cases value with
  | nil =>
      rfl
  | cons c others =>
      obtain ⟨notBlank, signed⟩ := follows c rfl
      rcases separates c rfl with sign | blank
      · obtain ⟨other, member, -⟩ := signed sign
        cases member
      · rw [notBlank] at blank
        cases blank

section Entry

variable {line key separator value : List Char}

theorem isEntry_of_cut (whole : line = key ++ (separator ++ value))
    (escapes : EscapesSeparators false key)
    (ends : ∀ c ∈ (separator ++ value).head?, Separates c ∧ leavesEscape false key = false)
    (isSeparator : IsSeparator separator) (follows : Follows value separator) :
    IsEntry line key separator value where
  line_eq := by rw [whole, List.append_assoc]
  isSeparator := isSeparator
  escaped := escapesSeparators_iff.mp escapes
  closed := by
    cases rest : separator ++ value with
    | nil =>
        exact Or.inl (by rw [whole, rest, List.append_nil])
    | cons c others =>
        exact Or.inr (closed_iff.mp (ends c (by rw [rest]; rfl)).2)
  separated := by
    intro none
    subst none
    have nothing := follows.eq_nil fun c isFirst => (ends c isFirst).1
    rw [whole, nothing, List.nil_append, List.append_nil]
  flush := fun c isFirst => (follows c isFirst).1
  signed := fun c isFirst => (follows c isFirst).2

theorem IsEntry.line_eq_append (entry : IsEntry line key separator value) :
    line = key ++ (separator ++ value) := by
  rw [entry.line_eq, List.append_assoc]

theorem IsEntry.follows (entry : IsEntry line key separator value) :
    Follows value separator :=
  fun c isFirst => ⟨entry.flush c isFirst, entry.signed c isFirst⟩

/-- Where something is left behind the key, it begins with the separator. -/
theorem IsEntry.ends (entry : IsEntry line key separator value) :
    ∀ c ∈ (separator ++ value).head?, Separates c ∧ leavesEscape false key = false := by
  intro c isFirst
  have notWhole : key ≠ line := by
    intro same
    have whole := entry.line_eq_append
    rw [← same] at whole
    rw [List.append_right_eq_self.mp whole.symm] at isFirst
    cases isFirst
  cases separator with
  | nil =>
      exact absurd (entry.separated rfl) notWhole
  | cons first others =>
      obtain rfl : first = c := Option.some.inj isFirst
      refine ⟨entry.isSeparator.separates first List.mem_cons_self, ?_⟩
      exact closed_iff.mpr (entry.closed.resolve_left notWhole)

theorem splitEntry_eq_iff_exists_rest :
    splitEntry line = (key, value) ↔
      ∃ rest, splitKey false line = (key, rest) ∧ dropSeparator rest = value := by
  rw [splitEntry, Prod.mk.injEq]
  constructor
  · intro same
    obtain ⟨rfl, rfl⟩ := same
    exact ⟨_, rfl, rfl⟩
  · intro found
    obtain ⟨rest, cut, rfl⟩ := found
    rw [cut]
    exact ⟨rfl, rfl⟩

end Entry

/-- A line is split into a key and a value exactly as the conditions on entries say, which leave
no choice. -/
theorem splitEntry_eq_iff {line key value : List Char} :
    splitEntry line = (key, value) ↔ ∃ separator, IsEntry line key separator value := by
  rw [splitEntry_eq_iff_exists_rest]
  constructor
  · intro found
    obtain ⟨rest, cut, dropped⟩ := found
    obtain ⟨whole, escapes, ends⟩ := splitKey_eq_iff.mp cut
    obtain ⟨separator, rfl, isSeparator, follows⟩ := dropSeparator_eq_iff.mp dropped
    exact ⟨separator, isEntry_of_cut whole escapes ends isSeparator follows⟩
  · intro found
    obtain ⟨separator, entry⟩ := found
    have escapes := escapesSeparators_iff.mpr entry.escaped
    refine ⟨separator ++ value, ?_, dropSeparator_append entry.isSeparator entry.follows⟩
    exact splitKey_eq_iff.mpr ⟨entry.line_eq_append, escapes, entry.ends⟩

example : splitEntry "a\\ b = =c".toList = ("a\\ b".toList, "=c".toList) := by decide

end LayeredConfig.Properties
