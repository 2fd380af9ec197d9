import LayeredConfig.Proofs.CodeEscapes

/-!
Characters that mean nothing to the format stand for themselves, in a key and in a value, on one
line and over two. The beginning of a physical line is an exception: there every blank is
dropped, also one that is not among the blanks of a separator and so belongs to a key or a value
in any other place.
-/

namespace LayeredConfig.Properties

theorem splitKey_append {text : List Char}
    (unseparated : ∀ c ∈ text, isSeparatorSign c = false ∧ isSeparatorBlank c = false)
    (escaped : Bool) (rest : List Char) :
    splitKey escaped (text ++ rest) =
      (text ++ (splitKey (leavesEscape escaped text) rest).1,
        (splitKey (leavesEscape escaped text) rest).2) := by
  induction text generalizing escaped with
  | nil => rfl
  | cons c others inductionHypothesis =>
      rw [List.forall_mem_cons] at unseparated
      obtain ⟨⟨notSign, notBlank⟩, othersUnseparated⟩ := unseparated
      have kept : (!escaped && (isSeparatorSign c || isSeparatorBlank c)) = false := by
        rw [notSign, notBlank, Bool.or_false, Bool.and_false]
      rw [List.cons_append, splitKey_cons_of_kept kept, inductionHypothesis othersUnseparated]
      rfl

theorem splitEntry_sign {key value : List Char}
    (unseparated : ∀ c ∈ key, isSeparatorSign c = false ∧ isSeparatorBlank c = false)
    (closed : leavesEscape false key = false)
    (flush : ∀ c ∈ value.head?, isSeparatorBlank c = false) :
    splitEntry (key ++ '=' :: value) = (key, value) := by
  have ends : splitKey false ('=' :: value) = ([], '=' :: value) := rfl
  rw [splitEntry, splitKey_append unseparated, closed, ends, List.append_nil]
  exact congrArg (Prod.mk key) (dropSeparator_sign flush)

/-- A character that neither ends a line nor begins an escape. -/
def IsUnescaped (c : Char) : Prop :=
  c ≠ '\\' ∧ c ≠ '\n' ∧ c ≠ '\r'

/-- A character that means nothing to the format, unless it stands at the beginning of a line. -/
def IsPlain (c : Char) : Prop :=
  IsUnescaped c ∧ isSeparatorSign c = false ∧ isSeparatorBlank c = false

instance (c : Char) : Decidable (IsUnescaped c) :=
  inferInstanceAs (Decidable (_ ∧ _ ∧ _))

instance (c : Char) : Decidable (IsPlain c) :=
  inferInstanceAs (Decidable (_ ∧ _ ∧ _))

section Lines

variable {line : List Char} (unescaped : ∀ c ∈ line, IsUnescaped c)

include unescaped

theorem noFeed_of_unescaped : '\n' ∉ line :=
  fun member => (unescaped _ member).2.1 rfl

theorem noBackslash_of_unescaped : '\\' ∉ line :=
  fun member => (unescaped _ member).1 rfl

theorem continues_of_unescaped : continues line = false := by
  rw [continues_eq_leavesEscape]
  exact leavesEscape_of_noBackslash (noBackslash_of_unescaped unescaped)

/-- A line by itself is a logical line, unless it is blank or a comment. -/
theorem logicalLines_single :
    logicalLines line =
      if isSkipped (Text.trimStart line) then [] else [Text.trimStart line] := by
  by_cases empty : line = []
  · subst empty
    rfl
  · rw [logicalLines, physicalLines_of_noFeed (noFeed_of_unescaped unescaped) empty, joinLines]
    simp only [continues_trimStart, continues_of_unescaped unescaped]
    rfl

theorem continues_marked_of_unescaped : continues (line ++ ['\\']) = true := by
  have closed := leavesEscape_of_noBackslash (noBackslash_of_unescaped unescaped)
  rw [continues_eq_leavesEscape, leavesEscape_append, closed]
  rfl

/-- Behind a mark a line goes on in the next one, of which the blanks at the beginning are
dropped. A blank line and a comment do not go on. -/
theorem logicalLines_broken {next : List Char} (nextUnescaped : ∀ c ∈ next, IsUnescaped c)
    (nonempty : Text.trimStart line ≠ []) :
    logicalLines (line ++ '\\' :: '\n' :: next) =
      if isSkipped (Text.trimStart line) then logicalLines next
      else [Text.trimStart line ++ Text.trimStart next] := by
  have noFeed : '\n' ∉ line ++ ['\\'] := by
    rw [List.mem_append, List.mem_singleton, not_or]
    exact ⟨noFeed_of_unescaped unescaped, by decide⟩
  have noReturn : (line ++ ['\\']).getLast? ≠ some '\r' := by
    rw [List.getLast?_concat]
    decide
  have lines : physicalLines (line ++ '\\' :: '\n' :: next) =
      (line ++ ['\\']) :: physicalLines next := by
    rw [← physicalLines_append_feed noFeed noReturn next, List.append_assoc]
    rfl
  have trimmed : Text.trimStart (line ++ ['\\']) = Text.trimStart line ++ ['\\'] :=
    Text.trimStart_append_cons (by decide) line []
  have sameStart : isSkipped (Text.trimStart line ++ ['\\']) =
      isSkipped (Text.trimStart line) := by
    cases start : Text.trimStart line with
    | nil => exact absurd start nonempty
    | cons c rest => rfl
  have completed (joined : List Char) :
      joinLines (some joined) (physicalLines next) = [joined ++ Text.trimStart next] := by
    by_cases empty : next = []
    · subst empty
      exact congrArg (· :: []) (List.append_nil joined).symm
    · rw [physicalLines_of_noFeed (noFeed_of_unescaped nextUnescaped) empty, joinLines,
        continues_trimStart, continues_of_unescaped nextUnescaped]
      rfl
  have marked : continues (Text.trimStart line ++ ['\\']) = true := by
    rw [← trimmed, continues_trimStart]
    exact continues_marked_of_unescaped unescaped
  rw [logicalLines, lines, joinLines, trimmed, sameStart, marked, List.dropLast_concat, completed]
  rfl

end Lines

theorem plain_trimStart {text : List Char} (plain : ∀ c ∈ text, IsPlain c) :
    ∀ c ∈ Text.trimStart text, IsPlain c := by
  intro c member
  exact plain c ((List.dropWhile_sublist _).mem member)

section Entries

variable {key value : List Char} (keyPlain : ∀ c ∈ key, IsPlain c)

include keyPlain

theorem splitEntry_plain_key : splitEntry key = (key, []) := by
  have split := splitKey_append (fun c member => (keyPlain c member).2) false []
  have ends : splitKey (leavesEscape false key) [] = ([], []) := rfl
  rw [ends, List.append_nil] at split
  rw [splitEntry, split]
  rfl

theorem splitEntry_plain (valuePlain : ∀ c ∈ value, IsPlain c) :
    splitEntry (key ++ '=' :: value) = (key, value) := by
  refine splitEntry_sign (fun c member => (keyPlain c member).2) ?_ ?_
  · exact leavesEscape_of_noBackslash fun member => (keyPlain _ member).1.1 rfl
  · intro c isFirst
    exact (valuePlain c (List.mem_of_mem_head? isFirst)).2.2

theorem unescaped_sign (valuePlain : ∀ c ∈ value, IsPlain c) :
    ∀ c ∈ key ++ '=' :: value, IsUnescaped c := by
  intro c member
  rw [List.mem_append, List.mem_cons] at member
  rcases member with inKey | rfl | inValue
  · exact (keyPlain c inKey).1
  · exact ⟨by decide, by decide, by decide⟩
  · exact (valuePlain c inValue).1

end Entries

/-- A key that looks like a comment when the blanks at its beginning are dropped. -/
def isHidden (key : List Char) : Bool :=
  isSkipped (Text.trimStart key ++ ['='])

theorem isHidden_eq_false {key : List Char} (flush : Text.trimStart key = key)
    (noComment : ∀ c ∈ key.head?, c ≠ '#' ∧ c ≠ '!') : isHidden key = false := by
  rw [isHidden, flush]
  cases key with
  | nil => rfl
  | cons c rest =>
      obtain ⟨notHash, notBang⟩ := noComment c rfl
      simp [isSkipped, notHash, notBang]

theorem trimStart_sign (key rest : List Char) :
    Text.trimStart (key ++ '=' :: rest) = Text.trimStart key ++ '=' :: rest :=
  Text.trimStart_append_cons (by decide) key rest

theorem isSkipped_sign (key rest : List Char) :
    isSkipped (Text.trimStart key ++ '=' :: rest) = isHidden key := by
  rw [isHidden]
  cases Text.trimStart key <;> rfl

section Contents

variable {content : String} {key first second : List Char}
  (keyPlain : ∀ c ∈ key, IsPlain c) (firstPlain : ∀ c ∈ first, IsPlain c)
  (secondPlain : ∀ c ∈ second, IsPlain c)

include keyPlain firstPlain

theorem rawEntries_unbroken (written : content.toList = key ++ '=' :: first) :
    rawEntries content = if isHidden key then [] else [(Text.trimStart key, first)] := by
  have lines := logicalLines_single (unescaped_sign keyPlain firstPlain)
  have split := splitEntry_plain (plain_trimStart keyPlain) firstPlain
  rw [trimStart_sign, isSkipped_sign] at lines
  rw [rawEntries, written, lines, apply_ite (List.map splitEntry), List.map_nil,
    List.map_singleton, split]

include secondPlain

theorem rawEntries_broken
    (written : content.toList = key ++ '=' :: first ++ '\\' :: '\n' :: second) :
    rawEntries content =
      if isHidden key then
        if isSkipped (Text.trimStart second) then [] else [(Text.trimStart second, [])]
      else [(Text.trimStart key, first ++ Text.trimStart second)] := by
  have trimmedPlain := plain_trimStart secondPlain
  have secondUnescaped : ∀ c ∈ second, IsUnescaped c := fun c member => (secondPlain c member).1
  have nonempty : Text.trimStart (key ++ '=' :: first) ≠ [] := by
    rw [trimStart_sign]
    simp
  have lines :=
    logicalLines_broken (unescaped_sign keyPlain firstPlain) secondUnescaped nonempty
  have valuePlain : ∀ c ∈ first ++ Text.trimStart second, IsPlain c := by
    intro c member
    rcases List.mem_append.mp member with inFirst | inSecond
    · exact firstPlain c inFirst
    · exact trimmedPlain c inSecond
  have split : splitEntry (Text.trimStart key ++ '=' :: first ++ Text.trimStart second) =
      (Text.trimStart key, first ++ Text.trimStart second) := by
    rw [List.append_assoc, List.cons_append]
    exact splitEntry_plain (plain_trimStart keyPlain) valuePlain
  rw [trimStart_sign, isSkipped_sign, logicalLines_single secondUnescaped] at lines
  rw [rawEntries, written, lines]
  by_cases hidden : isHidden key = true
  · rw [if_pos hidden, if_pos hidden, apply_ite (List.map splitEntry), List.map_nil,
      List.map_singleton, splitEntry_plain_key trimmedPlain]
  · rw [if_neg hidden, if_neg hidden, List.map_singleton, split]

end Contents

/-! ## Kept text -/

theorem parse_eq_single_iff {content : String} {skipped : Bool} {rawKey rawValue : List Char}
    (entries : rawEntries content = if skipped then [] else [(rawKey, rawValue)])
    (keyPlain : ∀ c ∈ rawKey, IsPlain c) (valuePlain : ∀ c ∈ rawValue, IsPlain c)
    {key value : String} :
    parse content = .ok (NameMap.ofList [(key, value)]) ↔
      skipped = false ∧ rawKey = key.toList ∧ rawValue = value.toList := by
  rw [parse, entries]
  cases skipped with
  | true =>
      constructor
      · intro same
        have entries := congrArg NameMap.entries (Except.ok.inj same)
        cases entries
      · rintro ⟨⟨⟩, -⟩
  | false =>
      have keyRead := unescape_of_noBackslash fun member => (keyPlain _ member).1.1 rfl
      have valueRead := unescape_of_noBackslash fun member => (valuePlain _ member).1.1 rfl
      have read : ([(rawKey, rawValue)].mapM decodeEntry).map NameMap.ofList =
          .ok (NameMap.ofList [(String.ofList rawKey, String.ofList rawValue)]) := by
        rw [List.mapM_cons, decodeEntry, keyRead, valueRead]
        rfl
      rw [if_neg Bool.false_ne_true, read, Except.ok.injEq, NameMap.ofList_singleton_inj,
        ← String.toList_inj, ← String.toList_inj, String.toList_ofList, String.toList_ofList]
      simp

/-- A key and a value of plain text are read as they are written exactly if the key does not begin
with a blank, and over two lines exactly if neither the key nor the part of the value on the
second line does. -/
theorem plain_text_kept_iff {key first second : String}
    (plain : ∀ c ∈ key.toList ++ first.toList ++ second.toList, IsPlain c)
    (noComment : ∀ c ∈ key.toList.head?, c ≠ '#' ∧ c ≠ '!') :
    (parse (key ++ "=" ++ first ++ second) = .ok (NameMap.ofList [(key, first ++ second)]) ↔
        ∀ c ∈ key.toList.head?, Text.isBlank c = false) ∧
      (parse (key ++ "=" ++ first ++ "\\\n" ++ second) =
          .ok (NameMap.ofList [(key, first ++ second)]) ↔
        (∀ c ∈ key.toList.head?, Text.isBlank c = false) ∧
          ∀ c ∈ second.toList.head?, Text.isBlank c = false) := by
  obtain ⟨keyFirstPlain, secondPlain⟩ := List.forall_mem_append.mp plain
  obtain ⟨keyPlain, firstPlain⟩ := List.forall_mem_append.mp keyFirstPlain
  have valuePlain := List.forall_mem_append.mpr ⟨firstPlain, secondPlain⟩
  have trimmedKey := plain_trimStart keyPlain
  have trimmedSecond := plain_trimStart secondPlain
  rw [← Text.trimStart_eq_self_iff, ← Text.trimStart_eq_self_iff]
  constructor
  · have written : (key ++ "=" ++ first ++ second).toList =
        key.toList ++ '=' :: (first.toList ++ second.toList) := by
      simp
    have entries := rawEntries_unbroken keyPlain valuePlain written
    rw [parse_eq_single_iff entries trimmedKey valuePlain, String.toList_append]
    constructor
    · rintro ⟨-, flush, -⟩
      exact flush
    · intro flush
      exact ⟨isHidden_eq_false flush noComment, flush, rfl⟩
  · have written : (key ++ "=" ++ first ++ "\\\n" ++ second).toList =
        key.toList ++ '=' :: first.toList ++ '\\' :: '\n' :: second.toList := by
      simp
    have entries := rawEntries_broken keyPlain firstPlain secondPlain written
    -- Where the first line is dropped as a comment, the second one is read as a key.
    by_cases hidden : isHidden key.toList = true
    · have notFlush : Text.trimStart key.toList ≠ key.toList := by
        intro flush
        rw [isHidden_eq_false flush noComment] at hidden
        cases hidden
      rw [if_pos hidden] at entries
      rw [parse_eq_single_iff entries trimmedSecond (List.forall_mem_nil _)]
      constructor
      · rintro ⟨-, same, -⟩
        have flush : Text.trimStart key.toList = key.toList := by
          rw [← same, Text.trimStart_trimStart]
        exact absurd flush notFlush
      · rintro ⟨flush, -⟩
        exact absurd flush notFlush
    · have single : rawEntries (key ++ "=" ++ first ++ "\\\n" ++ second) =
          if isHidden key.toList then []
          else [(Text.trimStart key.toList, first.toList ++ Text.trimStart second.toList)] := by
        rw [entries, if_neg hidden, if_neg hidden]
      have trimmedValue := List.forall_mem_append.mpr ⟨firstPlain, trimmedSecond⟩
      rw [parse_eq_single_iff single trimmedKey trimmedValue, String.toList_append,
        List.append_cancel_left_eq]
      constructor
      · rintro ⟨-, keyFlush, secondFlush⟩
        exact ⟨keyFlush, secondFlush⟩
      · rintro ⟨keyFlush, secondFlush⟩
        exact ⟨isHidden_eq_false keyFlush noComment, keyFlush, secondFlush⟩

private theorem plain_of_all {text : List Char}
    (all : (text.all fun c => decide (IsPlain c)) = true) :
    ∀ c ∈ text, IsPlain c :=
  fun c member => of_decide_eq_true (List.all_eq_true.mp all c member)

/-- A blank that does not separate is kept before the line break and lost behind it. -/
theorem plain_text_kept_iff_indented :
    (∀ c ∈ "k".toList ++ "a\u00a0".toList ++ "\u3000b".toList, IsPlain c) ∧
      (∀ c ∈ "k".toList.head?, c ≠ '#' ∧ c ≠ '!') ∧
      parse ("k" ++ "=" ++ "a\u00a0" ++ "\u3000b") =
          .ok (NameMap.ofList [("k", "a\u00a0" ++ "\u3000b")]) ∧
        parse ("k" ++ "=" ++ "a\u00a0" ++ "\\\n" ++ "\u3000b") ≠
          .ok (NameMap.ofList [("k", "a\u00a0" ++ "\u3000b")]) := by
  have plain : ∀ c ∈ "k".toList ++ "a\u00a0".toList ++ "\u3000b".toList, IsPlain c :=
    plain_of_all (by rfl)
  have noComment : ∀ c ∈ "k".toList.head?, c ≠ '#' ∧ c ≠ '!' := by
    rintro _ ⟨⟩
    decide
  obtain ⟨unbroken, broken⟩ := plain_text_kept_iff plain noComment
  refine ⟨plain, noComment, ?_, ?_⟩
  · rw [unbroken]
    rintro _ ⟨⟩
    rfl
  · rw [Ne, broken]
    intro flush
    exact absurd (flush.2 '\u3000' rfl) (by decide)

/-- Plain text is not kept in every case: a blank that does not separate is dropped at the
beginning of the line on which a value goes on. -/
theorem plain_text_loses_blanks :
    parse "k=a\\\n\u3000b" = .ok (NameMap.ofList [("k", "ab")]) ∧
      ¬ ∀ key first second : String, key ≠ "" →
        (∀ c ∈ key.toList ++ first.toList ++ second.toList, IsPlain c) →
          (∀ c ∈ key.toList.head?, c ≠ '#' ∧ c ≠ '!') →
            parse (key ++ "=" ++ first ++ second) =
                .ok (NameMap.ofList [(key, first ++ second)]) ∧
              parse (key ++ "=" ++ first ++ "\\\n" ++ second) =
                .ok (NameMap.ofList [(key, first ++ second)]) := by
  have read : parse "k=a\\\n\u3000b" = .ok (NameMap.ofList [("k", "ab")]) := by rfl
  refine ⟨read, fun kept => ?_⟩
  have plain : ∀ c ∈ "k".toList ++ "a".toList ++ "\u3000b".toList, IsPlain c :=
    plain_of_all (by rfl)
  have noComment : ∀ c ∈ "k".toList.head?, c ≠ '#' ∧ c ≠ '!' := by
    rintro _ ⟨⟩
    decide
  have verbatim : parse "k=a\\\n\u3000b" = .ok (NameMap.ofList [("k", "a\u3000b")]) :=
    (kept "k" "a" "\u3000b" (by decide) plain noComment).2
  rw [read, Except.ok.injEq, NameMap.ofList_singleton_inj] at verbatim
  exact absurd verbatim.2 (by decide)

end LayeredConfig.Properties
