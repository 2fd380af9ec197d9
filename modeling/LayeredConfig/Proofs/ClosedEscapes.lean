import LayeredConfig.Proofs.CodeEscapes
import LayeredConfig.Proofs.Separators

/-!
A line that goes on loses its last backslash when it is joined with the next one, so a logical line
leaves no escape open, not even where the content ends. It is split where no escape is open, so
neither do its key and its value. The decoder therefore takes them apart into whole tokens and never
comes to a backslash with nothing behind it.
-/

namespace LayeredConfig.Properties

theorem closed_append
    {first second : List Char}
    (firstClosed : leavesEscape false first = false)
    (secondClosed : leavesEscape false second = false) :
    leavesEscape false (first ++ second) = false := by
  rw [leavesEscape_append, firstClosed]
  exact secondClosed

/-- A line that goes on leaves no escape open without its last backslash. -/
theorem closed_dropLast
    {text : List Char} (goesOn : continues text = true) :
    leavesEscape false text.dropLast = false := by
  rw [continues_eq_leavesEscape] at goesOn
  rcases List.eq_nil_or_concat' text with rfl | ⟨front, last, rfl⟩
  · cases goesOn
  · rw [List.dropLast_concat]
    by_contra isOpen
    rw [Bool.not_eq_false] at isOpen
    -- the last character would be escaped and could not open an escape itself
    rw [leavesEscape_append, isOpen] at goesOn
    cases goesOn

/-- What is joined already and every further line leave no escape open. By induction on the
physical lines, with what is joined generalised. -/
theorem joinLines_closed
    {pending : Option (List Char)} {lines : List (List Char)}
    (pendingClosed : ∀ joined ∈ pending, leavesEscape false joined = false) :
    ∀ line ∈ joinLines pending lines, leavesEscape false line = false := by
  have nothing : ∀ joined ∈ (none : Option (List Char)), leavesEscape false joined = false := by
    simp
  induction lines generalizing pending with
  | nil =>
      intro line member
      cases pending with
      | none =>
          cases member
      | some joined =>
          rw [joinLines, List.mem_singleton] at member
          rw [member]
          exact pendingClosed joined rfl
  | cons first rest inductionHypothesis =>
      intro line member
      have stops
          (stopped : ¬ continues (Text.trimStart first) = true) :
          leavesEscape false (Text.trimStart first) = false := by
        rwa [continues_eq_leavesEscape, Bool.not_eq_true] at stopped
      cases pending with
      | none =>
          rw [joinLines] at member
          by_cases skipped : isSkipped (Text.trimStart first) = true
          · rw [if_pos skipped] at member
            exact inductionHypothesis nothing line member
          · rw [if_neg skipped] at member
            by_cases goesOn : continues (Text.trimStart first) = true
            · rw [if_pos goesOn] at member
              apply inductionHypothesis _ line member
              intro text isPending
              cases isPending
              exact closed_dropLast goesOn
            · rw [if_neg goesOn] at member
              rcases List.mem_cons.mp member with rfl | later
              · exact stops goesOn
              · exact inductionHypothesis nothing line later
      | some joined =>
          have joinedClosed := pendingClosed joined rfl
          rw [joinLines] at member
          by_cases goesOn : continues (Text.trimStart first) = true
          · rw [if_pos goesOn] at member
            apply inductionHypothesis _ line member
            intro text isPending
            cases isPending
            exact closed_append joinedClosed (closed_dropLast goesOn)
          · rw [if_neg goesOn] at member
            rcases List.mem_cons.mp member with rfl | later
            · exact closed_append joinedClosed (stops goesOn)
            · exact inductionHypothesis nothing line later

theorem logicalLines_closed
    {content line : List Char} (member : line ∈ logicalLines content) :
    leavesEscape false line = false := by
  apply joinLines_closed _ line member
  simp

theorem IsSeparator.closed
    {separator : List Char} (isSeparator : IsSeparator separator) :
    leavesEscape false separator = false := by
  apply leavesEscape_of_noBackslash
  intro member
  rcases isSeparator.separates _ member with sign | blank
  · cases sign
  · cases blank

theorem splitEntry_closed
    {line key value : List Char}
    (closed : leavesEscape false line = false)
    (split : splitEntry line = (key, value)) :
    ∃ separator, line = key ++ separator ++ value ∧
      leavesEscape false key = false ∧
      leavesEscape false (key ++ separator) = false ∧
      leavesEscape false value = false := by
  obtain ⟨rest, cut, dropped⟩ := splitEntry_eq_iff_exists_rest.mp split
  obtain ⟨whole, -, ends⟩ := splitKey_eq_iff.mp cut
  obtain ⟨separator, rfl, isSeparator, -⟩ := dropSeparator_eq_iff.mp dropped
  have keyClosed : leavesEscape false key = false := by
    cases remainder : separator ++ value with
    | nil =>
        rwa [whole, remainder, List.append_nil] at closed
    | cons c others =>
        rw [remainder] at ends
        exact (ends c rfl).2
  refine ⟨separator, ?_, keyClosed, closed_append keyClosed isSeparator.closed, ?_⟩
  · rw [whole, List.append_assoc]
  · rwa [whole, leavesEscape_append, keyClosed, leavesEscape_append, isSeparator.closed] at closed

theorem rawTexts_closed
    {content : String} {text : List Char} (member : text ∈ rawTexts content) :
    leavesEscape false text = false := by
  obtain ⟨entry, present, isPart⟩ := List.mem_flatMap.mp member
  obtain ⟨line, isLine, rfl⟩ := List.mem_map.mp present
  obtain ⟨-, -, keyClosed, -, valueClosed⟩ := splitEntry_closed (logicalLines_closed isLine) rfl
  simp only [List.mem_cons, List.not_mem_nil, or_false] at isPart
  rcases isPart with rfl | rfl
  · exact keyClosed
  · exact valueClosed

/-! ## Decoding token by token -/

/-- The tokens of an escaped text, each with the character it stands for. -/
inductive IsToken : List Char → Char → Prop
  | plain {c : Char} :
      c ≠ '\\' → IsToken [c] c
  | escaped {letter : Char} :
      letter ≠ 'u' → IsToken ['\\', letter] (escapedChar letter)
  | code {a b c d : Char} {code : Nat} :
      escapeCode? [a, b, c, d] = some code →
        IsToken ['\\', 'u', a, b, c, d] (charOfCode code)

/-- The decoder comes from a text, by way of some tokens and the characters they stand for, to what
is left of it. -/
inductive ComesTo : List Char → List Char → List Char → Prop
  | start (text : List Char) :
      ComesTo text [] text
  | token {token text decoded rest : List Char} {c : Char} :
      IsToken token c → ComesTo text decoded rest → ComesTo (token ++ text) (c :: decoded) rest

theorem IsToken.closed
    {token : List Char} {c : Char} (isToken : IsToken token c) :
    leavesEscape false token = false := by
  cases isToken with
  | plain notBackslash =>
      simpa [leavesEscape] using notBackslash
  | escaped notCode =>
      rfl
  | code given =>
      obtain ⟨readable, -⟩ := escapeCode?_eq_some_iff.mp given
      have digitsClosed := leavesEscape_of_noBackslash readable.noBackslash
      exact digitsClosed

theorem IsToken.unescape_append
    {token : List Char} {c : Char} (isToken : IsToken token c) (rest : List Char) :
    unescape (token ++ rest) = (unescape rest).map (c :: ·) := by
  cases isToken with
  | plain notBackslash =>
      exact unescape_cons_of_ne notBackslash rest
  | escaped notCode =>
      exact unescape_backslash_of_ne notCode rest
  | code given =>
      simp only [List.cons_append, List.nil_append, unescape, given]

namespace ComesTo

variable {text decoded rest : List Char}

/-- Whole tokens leave the state of the escape as it is. -/
theorem leavesEscape_eq (comes : ComesTo text decoded rest) :
    leavesEscape false rest = leavesEscape false text := by
  induction comes with
  | start text =>
      rfl
  | token isToken _ inductionHypothesis =>
      rw [leavesEscape_append, isToken.closed]
      exact inductionHypothesis

theorem ne_backslash
    (closed : leavesEscape false text = false) (comes : ComesTo text decoded rest) :
    rest ≠ ['\\'] := by
  intro same
  rw [← comes.leavesEscape_eq, same] at closed
  cases closed

theorem unescape_eq (comes : ComesTo text decoded rest) :
    unescape text = (unescape rest).map (decoded ++ ·) := by
  induction comes with
  | start text =>
      cases unescape text <;> rfl
  | @token _ _ _ rest _ isToken _ inductionHypothesis =>
      rw [isToken.unescape_append, inductionHypothesis]
      cases unescape rest <;> rfl

end ComesTo

theorem IsToken.finishes
    {token rest decoded : List Char} {c : Char} (isToken : IsToken token c)
    (others : ∀ {more}, unescape rest = .ok more →
      ComesTo rest more [] ∨ ComesTo rest more ['\\'])
    (read : (unescape rest).map (c :: ·) = .ok decoded) :
    ComesTo (token ++ rest) decoded [] ∨ ComesTo (token ++ rest) decoded ['\\'] := by
  obtain ⟨more, restRead, rfl⟩ := Traversal.map_eq_ok_iff.mp read
  rcases others restRead with ended | left
  · exact Or.inl (ComesTo.token isToken ended)
  · exact Or.inr (ComesTo.token isToken left)

/-- A text is decoded if the decoder comes to its end, or to a backslash at its end, which it drops.
By induction along the decoder, which takes one token after the other. -/
theorem unescape_eq_ok_iff {text decoded : List Char} :
    unescape text = .ok decoded ↔ ComesTo text decoded [] ∨ ComesTo text decoded ['\\'] := by
  constructor
  · intro read
    fun_induction unescape text generalizing decoded with
    | case1 =>
        cases read
        exact Or.inl (ComesTo.start [])
    | case2 a b c d rest code given inductionHypothesis =>
        exact (IsToken.code given).finishes inductionHypothesis read
    | case3 a b c d rest none =>
        cases read
    | case4 digits incomplete =>
        cases read
    | case5 letter rest _ notCode inductionHypothesis =>
        exact (IsToken.escaped notCode).finishes inductionHypothesis read
    | case6 =>
        cases read
        exact Or.inr (ComesTo.start ['\\'])
    | case7 c rest _ _ notPair notLast inductionHypothesis =>
        have notBackslash := ne_backslash_of_token notPair notLast
        exact (IsToken.plain notBackslash).finishes inductionHypothesis read
  · intro comes
    rcases comes with ended | left
    · rw [ended.unescape_eq]
      exact congrArg Except.ok (List.append_nil decoded)
    · rw [left.unescape_eq]
      exact congrArg Except.ok (List.append_nil decoded)

/-- Every logical line ends in an even number of backslashes, and so do its key and its value, which
begins behind an even number of them too. Decoding a key or a value never comes to a lone backslash
at the end: it succeeds exactly if it comes to the end token by token, each of which gives a
character. -/
theorem decoder_finds_escapes_closed (content : String) :
    (∀ line ∈ logicalLines content.toList,
      trailingBackslashes line % 2 = 0 ∧
        ∀ key value, splitEntry line = (key, value) →
          trailingBackslashes key % 2 = 0 ∧ trailingBackslashes value % 2 = 0 ∧
            ∃ separator, line = key ++ separator ++ value ∧
              trailingBackslashes (key ++ separator) % 2 = 0) ∧
      ∀ text ∈ rawTexts content, ∀ decoded,
        ¬ ComesTo text decoded ['\\'] ∧
          (unescape text = .ok decoded ↔ ComesTo text decoded []) := by
  constructor
  · intro line member
    have lineClosed := logicalLines_closed member
    refine ⟨closed_iff.mp lineClosed, ?_⟩
    intro key value split
    obtain ⟨separator, whole, keyClosed, separatorClosed, valueClosed⟩ :=
      splitEntry_closed lineClosed split
    refine ⟨closed_iff.mp keyClosed, closed_iff.mp valueClosed, separator, whole, ?_⟩
    exact closed_iff.mp separatorClosed
  · intro text member decoded
    have never : ¬ ComesTo text decoded ['\\'] := by
      intro left
      exact left.ne_backslash (rawTexts_closed member) rfl
    refine ⟨never, ?_⟩
    rw [unescape_eq_ok_iff]
    exact or_iff_left never

/-- Lines of backslashes are joined where the content ends within a line that goes on. -/
theorem decoder_finds_escapes_closed_unended :
    let content := "k=a\\\\\\\n\\\\\\"
    let value := ['a', '\\', '\\', '\\', '\\']
    'k' :: '=' :: value ∈ logicalLines content.toList ∧
      trailingBackslashes ('k' :: '=' :: value) % 2 = 0 ∧
        splitEntry ('k' :: '=' :: value) = (['k'], value) ∧
          trailingBackslashes value % 2 = 0 ∧
            value ∈ rawTexts content ∧
              ¬ ComesTo value ['a', '\\', '\\'] ['\\'] ∧
                ComesTo value ['a', '\\', '\\'] [] := by
  intro content value
  have line : 'k' :: '=' :: value ∈ logicalLines content.toList := by decide +kernel
  have split : splitEntry ('k' :: '=' :: value) = (['k'], value) := by decide
  have part : value ∈ rawTexts content := by decide +kernel
  obtain ⟨lines, texts⟩ := decoder_finds_escapes_closed content
  obtain ⟨even, entry⟩ := lines _ line
  obtain ⟨never, decodes⟩ := texts value part ['a', '\\', '\\']
  exact ⟨line, even, split, (entry _ _ split).2.1, part, never, decodes.mp rfl⟩

end LayeredConfig.Properties
