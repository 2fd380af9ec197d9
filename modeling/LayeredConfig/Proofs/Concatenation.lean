import LayeredConfig.Proofs.PropertiesRoundTrip

/-!
Two contents may be put together with a line feed between them. Unless the first one ends in a
carriage return, which the line feed would take along, or in a line that goes on in the next one,
no logical line reaches across the seam. So the whole is read as the first content and then the
second one, whose properties go before those of the first.
-/

namespace LayeredConfig.Properties

open Traversal

theorem physicalLines_ne_nil {text : List Char} (nonempty : text ≠ []) :
    physicalLines text ≠ [] := by
  fun_cases physicalLines text <;> simp_all

private theorem noReturn_of_cons {c : Char} {rest : List Char}
    (noReturn : (c :: rest).getLast? ≠ some '\r') : rest.getLast? ≠ some '\r' := by
  intro last
  apply noReturn
  rw [List.getLast?_cons, last]
  rfl

/-- The physical lines of two texts with a line feed between them. The line feed ends the last
line of the first text; if that text is empty or ends in a line feed itself, there is an empty
line instead. -/
theorem physicalLines_seam {first : List Char} (noReturn : first.getLast? ≠ some '\r')
    (second : List Char) :
    ∃ gap, (gap = [] ∨ gap = [[]]) ∧
      physicalLines (first ++ '\n' :: second) =
        physicalLines first ++ gap ++ physicalLines second := by
  fun_induction physicalLines first with
  | case1 => exact ⟨[[]], Or.inr rfl, by rw [List.nil_append, physicalLines]; rfl⟩
  | case2 rest inductionHypothesis =>
      obtain ⟨gap, isGap, split⟩ := inductionHypothesis (noReturn_of_cons noReturn)
      refine ⟨gap, isGap, ?_⟩
      rw [List.cons_append, physicalLines, split]
      rfl
  | case3 rest inductionHypothesis =>
      have noReturnLater := noReturn_of_cons (noReturn_of_cons noReturn)
      obtain ⟨gap, isGap, split⟩ := inductionHypothesis noReturnLater
      refine ⟨gap, isGap, ?_⟩
      rw [List.cons_append, List.cons_append, physicalLines, split]
      rfl
  | case4 c rest notFeed _ ended _ =>
      -- The last character: the line feed between the texts ends its line.
      have empty : rest = [] := by
        by_contra nonempty
        exact physicalLines_ne_nil nonempty ended
      subst empty
      have noFeed : '\n' ∉ [c] := by
        rw [List.mem_singleton]
        exact fun same => notFeed same.symm
      exact ⟨[], Or.inl rfl, physicalLines_append_feed noFeed noReturn second⟩
  | case5 c rest notFeed notPair line lines lined inductionHypothesis =>
      obtain ⟨gap, isGap, split⟩ := inductionHypothesis (noReturn_of_cons noReturn)
      refine ⟨gap, isGap, ?_⟩
      rw [lined] at split
      refine physicalLines_cons_of_ne notFeed ?_ split
      intro isReturn feed
      cases rest with
      | nil => exact noReturn (congrArg some isReturn)
      | cons next others =>
          have isFeed : next = '\n' := Option.some.inj feed
          exact notPair others isReturn (by rw [isFeed])

/-- Lines of which the last does not go on complete their logical lines, so that nothing is
pending before the lines that follow. By induction on the lines, with what is pending
generalised. -/
theorem joinLines_append {pending : Option (List Char)} {lines : List (List Char)}
    (begun : lines = [] → pending = none)
    (closed : ∀ last ∈ lines.getLast?, continues last = false) (further : List (List Char)) :
    joinLines pending (lines ++ further) = joinLines pending lines ++ joinLines none further := by
  induction lines generalizing pending with
  | nil =>
      rw [begun rfl]
      rfl
  | cons line rest inductionHypothesis =>
      have restClosed : ∀ last ∈ rest.getLast?, continues last = false := by
        intro last isLast
        apply closed
        rw [List.getLast?_cons, Option.mem_def.mp isLast]
        rfl
      have goesOn (text : List Char) : continues (Text.trimStart line) = true →
          joinLines (some text) (rest ++ further) =
            joinLines (some text) rest ++ joinLines none further := by
        intro marked
        refine inductionHypothesis ?_ restClosed
        intro isLast
        subst isLast
        -- A mark on the last line would leave its text pending.
        have unmarked := closed line rfl
        rw [continues_trimStart, unmarked] at marked
        cases marked
      have ends : joinLines none (rest ++ further) =
          joinLines none rest ++ joinLines none further :=
        inductionHypothesis (fun _ => rfl) restClosed
      cases pending with
      | none =>
          rw [List.cons_append, joinLines, joinLines]
          by_cases skipped : isSkipped (Text.trimStart line) = true
          · simp only [if_pos skipped, ends]
          · by_cases marked : continues (Text.trimStart line) = true
            · simp only [if_neg skipped, if_pos marked, goesOn _ marked]
            · simp only [if_neg skipped, if_neg marked, ends, List.cons_append]
      | some joined =>
          rw [List.cons_append, joinLines, joinLines]
          by_cases marked : continues (Text.trimStart line) = true
          · simp only [if_pos marked, goesOn _ marked]
          · simp only [if_neg marked, ends, List.cons_append]

theorem logicalLines_seam {first : List Char} (noReturn : first.getLast? ≠ some '\r')
    (closed : ∀ last ∈ (physicalLines first).getLast?, trailingBackslashes last % 2 = 0)
    (second : List Char) :
    logicalLines (first ++ '\n' :: second) = logicalLines first ++ logicalLines second := by
  have lastCloses : ∀ last ∈ (physicalLines first).getLast?, continues last = false := by
    intro last isLast
    rw [continues, closed last isLast]
    rfl
  obtain ⟨gap, isGap, split⟩ := physicalLines_seam noReturn second
  have passed : joinLines none (gap ++ physicalLines second) = logicalLines second := by
    rcases isGap with rfl | rfl
    · rfl
    · rw [List.singleton_append, joinLines]
      rfl
  rw [logicalLines, split, List.append_assoc, joinLines_append (fun _ => rfl) lastCloses, passed]
  rfl

/-- Where the entries of a content are those of two others, it is read as the first and then the
second of them. -/
theorem parse_of_rawEntries_append {whole first second : String}
    (entries : rawEntries whole = rawEntries first ++ rawEntries second) :
    (∀ malformed, parse first = .error malformed → parse whole = .error malformed) ∧
      (∀ upper malformed, parse first = .ok upper → parse second = .error malformed →
        parse whole = .error malformed) ∧
      ∀ upper lower, parse first = .ok upper → parse second = .ok lower →
        ∃ properties, parse whole = .ok properties ∧
          ∀ name, properties.find? name = (lower.find? name).or (upper.find? name) := by
  rw [parse, parse, parse, entries, List.mapM_append]
  cases (rawEntries first).mapM decodeEntry with
  | error malformed =>
      refine ⟨fun _ same => same, ?_, ?_⟩
      · intro upper other firstRead
        cases firstRead
      · intro upper lower firstRead
        cases firstRead
  | ok pairs =>
      cases (rawEntries second).mapM decodeEntry with
      | error malformed =>
          refine ⟨?_, fun _ _ _ same => same, ?_⟩
          · intro other firstFails
            cases firstFails
          · intro upper lower _ secondRead
            cases secondRead
      | ok further =>
          refine ⟨?_, ?_, ?_⟩
          · intro other firstFails
            cases firstFails
          · intro upper other _ secondFails
            cases secondFails
          · intro upper lower firstRead secondRead
            cases firstRead
            cases secondRead
            exact ⟨_, rfl, NameMap.find?_ofList_append pairs further⟩

private theorem toList_seam (first second : String) :
    (first ++ "\n" ++ second).toList = first.toList ++ '\n' :: second.toList := by
  simp

theorem rawEntries_seam {first : String} (noReturn : first.toList.getLast? ≠ some '\r')
    (closed : ∀ last ∈ (physicalLines first.toList).getLast?, trailingBackslashes last % 2 = 0)
    (second : String) :
    rawEntries (first ++ "\n" ++ second) = rawEntries first ++ rawEntries second := by
  rw [rawEntries, toList_seam, logicalLines_seam noReturn closed, List.map_append]
  rfl

theorem find?_parseLeniently_of_rawEntries_append {whole first second : String}
    (entries : rawEntries whole = rawEntries first ++ rawEntries second) (name : String) :
    (parseLeniently whole).find? name =
      ((parseLeniently second).find? name).or ((parseLeniently first).find? name) := by
  rw [parseLeniently, entries, List.map_append, NameMap.find?_ofList_append]
  rfl

/-- Two contents with a line feed between them are read as the one and then the other, unless the
first ends in a carriage return or its last line goes on. Their logical lines follow each other.
The strict reading fails as that of the first content does, and else as that of the second; in
its properties those of the second content go before those of the first, as they do in the
lenient reading. -/
theorem concatenation_is_read_in_turn {first : String}
    (noReturn : first.toList.getLast? ≠ some '\r')
    (closed : ∀ last ∈ (physicalLines first.toList).getLast?,
      trailingBackslashes last % 2 = 0)
    (second : String) :
    logicalLines (first ++ "\n" ++ second).toList =
        logicalLines first.toList ++ logicalLines second.toList ∧
      (∀ malformed, parse first = .error malformed →
        parse (first ++ "\n" ++ second) = .error malformed) ∧
      (∀ upper malformed, parse first = .ok upper → parse second = .error malformed →
        parse (first ++ "\n" ++ second) = .error malformed) ∧
      (∀ upper lower, parse first = .ok upper → parse second = .ok lower →
        ∃ properties, parse (first ++ "\n" ++ second) = .ok properties ∧
          ∀ name, properties.find? name = (lower.find? name).or (upper.find? name)) ∧
      ∀ name, (parseLeniently (first ++ "\n" ++ second)).find? name =
        ((parseLeniently second).find? name).or ((parseLeniently first).find? name) := by
  have entries := rawEntries_seam noReturn closed second
  obtain ⟨firstFails, secondFails, succeeds⟩ := parse_of_rawEntries_append entries
  refine ⟨?_, firstFails, secondFails, succeeds, ?_⟩
  · rw [toList_seam]
    exact logicalLines_seam noReturn closed second.toList
  · exact find?_parseLeniently_of_rawEntries_append entries

/-- The first content goes on over a line feed and ends in two backslashes, the second one begins
with an empty line and gives one of the keys again. -/
theorem concatenation_is_read_in_turn_repeated :
    "k=a\\\n\t,b\nm=C:\\\\".toList.getLast? ≠ some '\r' ∧
      (∀ last ∈ (physicalLines "k=a\\\n\t,b\nm=C:\\\\".toList).getLast?,
        trailingBackslashes last % 2 = 0) ∧
      logicalLines ("k=a\\\n\t,b\nm=C:\\\\" ++ "\n" ++ "\r\nk=\\u0063").toList =
        ["k=a,b".toList, "m=C:\\\\".toList, "k=\\u0063".toList] ∧
      ∃ properties,
        parse ("k=a\\\n\t,b\nm=C:\\\\" ++ "\n" ++ "\r\nk=\\u0063") = .ok properties ∧
          properties.find? "k" = some "c" ∧ properties.find? "m" = some "C:\\" := by
  have noReturn : "k=a\\\n\t,b\nm=C:\\\\".toList.getLast? ≠ some '\r' := by decide
  have closed : ∀ last ∈ (physicalLines "k=a\\\n\t,b\nm=C:\\\\".toList).getLast?,
      trailingBackslashes last % 2 = 0 := by
    rintro _ ⟨⟩
    rfl
  obtain ⟨lines, -, -, succeeds, -⟩ :=
    concatenation_is_read_in_turn noReturn closed "\r\nk=\\u0063"
  obtain ⟨properties, read, finds⟩ := succeeds
    (NameMap.ofList [("k", "a,b"), ("m", "C:\\")]) (NameMap.ofList [("k", "c")]) rfl rfl
  refine ⟨noReturn, closed, ?_, properties, read, ?_, ?_⟩
  · rw [lines]
    rfl
  · rw [finds]
    decide
  · rw [finds]
    decide

end LayeredConfig.Properties
