import LayeredConfig.Properties.Entry
import LayeredConfig.Properties.Line
import Mathlib.Data.List.Induction

/-!
A backslash escapes the character after it unless it is escaped itself. Whether the next
character is escaped is a state of two values, carried from left to right. A line goes on in
the next one exactly if it leaves an escape open, although that is decided from the right, by
counting backslashes.
-/

namespace LayeredConfig.Properties

/-- Whether the character after a text is escaped, if it was so before the text or not. -/
def leavesEscape : Bool → List Char → Bool
  | escaped, [] => escaped
  | escaped, c :: rest => leavesEscape (!escaped && c == '\\') rest

theorem leavesEscape_append (escaped : Bool) (first second : List Char) :
    leavesEscape escaped (first ++ second) = leavesEscape (leavesEscape escaped first) second := by
  induction first generalizing escaped with
  | nil => rfl
  | cons c rest inductionHypothesis => exact inductionHypothesis _

theorem leavesEscape_of_noBackslash {text : List Char} (noBackslash : '\\' ∉ text) :
    leavesEscape false text = false := by
  induction text with
  | nil => rfl
  | cons c rest inductionHypothesis =>
      rw [List.mem_cons, not_or] at noBackslash
      have plain : (!false && c == '\\') = false := by simpa using Ne.symm noBackslash.1
      rw [leavesEscape, plain]
      exact inductionHypothesis noBackslash.2

theorem trailingBackslashes_concat (line : List Char) (c : Char) :
    trailingBackslashes (line ++ [c]) = if c = '\\' then trailingBackslashes line + 1 else 0 := by
  rw [trailingBackslashes, List.reverse_append, List.reverse_singleton, List.singleton_append]
  by_cases backslash : c = '\\'
  · rw [if_pos backslash, List.takeWhile_cons_of_pos (by simpa using backslash)]
    rfl
  · rw [if_neg backslash, List.takeWhile_cons_of_neg (by simpa using backslash)]
    rfl

/-- A line goes on in the next one exactly if it leaves an escape open. By induction from the
right, since a backslash at the end turns both answers around and any other character makes
both negative. -/
theorem continues_eq_leavesEscape (line : List Char) :
    continues line = leavesEscape false line := by
  induction line using List.reverseRecOn with
  | nil => rfl
  | append_singleton line c inductionHypothesis =>
      rw [leavesEscape_append, ← inductionHypothesis, continues, continues,
        trailingBackslashes_concat]
      by_cases backslash : c = '\\'
      · rw [if_pos backslash]
        subst backslash
        rcases Nat.mod_two_eq_zero_or_one (trailingBackslashes line) with even | odd
        · have next : (trailingBackslashes line + 1) % 2 = 1 := by omega
          simp [leavesEscape, even, next]
        · have next : (trailingBackslashes line + 1) % 2 = 0 := by omega
          simp [leavesEscape, odd, next]
      · rw [if_neg backslash]
        simp [leavesEscape, backslash]

/-- A separator blank is one of the blanks. -/
theorem isBlank_of_isSeparatorBlank {c : Char} (h : isSeparatorBlank c = true) :
    Text.isBlank c = true := by
  simp only [isSeparatorBlank, Bool.or_eq_true, beq_iff_eq] at h
  rcases h with (rfl | rfl) | rfl <;> decide

/-- Blanks at the beginning have no influence on whether a line goes on in the next one. -/
theorem continues_trimStart (line : List Char) :
    continues (Text.trimStart line) = continues line := by
  have blanks : '\\' ∉ line.takeWhile Text.isBlank := by
    intro member
    have blank := List.all_eq_true.mp List.all_takeWhile _ member
    exact absurd blank (by decide)
  have whole : line.takeWhile Text.isBlank ++ Text.trimStart line = line :=
    List.takeWhile_append_dropWhile
  rw [continues_eq_leavesEscape, continues_eq_leavesEscape]
  conv_rhs => rw [← whole, leavesEscape_append, leavesEscape_of_noBackslash blanks]

/-- A character that does not end a line stands at the beginning of the first line. -/
theorem physicalLines_cons_of_ne {c : Char} {rest line : List Char}
    {lines : List (List Char)} (notFeed : c ≠ '\n') (notPair : c = '\r' → rest.head? ≠ some '\n')
    (split : physicalLines rest = line :: lines) :
    physicalLines (c :: rest) = (c :: line) :: lines := by
  rw [physicalLines.eq_def]
  split
  · contradiction
  · rename_i same
    exact absurd (List.cons.inj same).1 notFeed
  · rename_i same
    obtain ⟨isReturn, feed⟩ := List.cons.inj same
    exact absurd (by rw [feed]; rfl) (notPair isReturn)
  · rename_i same
    obtain ⟨rfl, rfl⟩ := List.cons.inj same
    rw [split]

/-- A line feed ends a physical line that holds none and does not end in a carriage return. -/
theorem physicalLines_append_feed {line : List Char} (noFeed : '\n' ∉ line)
    (noReturn : line.getLast? ≠ some '\r') (rest : List Char) :
    physicalLines (line ++ '\n' :: rest) = line :: physicalLines rest := by
  induction line with
  | nil => rw [List.nil_append, physicalLines]
  | cons c more inductionHypothesis =>
      rw [List.mem_cons, not_or] at noFeed
      rw [List.cons_append]
      cases more with
      | nil =>
          refine physicalLines_cons_of_ne (Ne.symm noFeed.1) ?_
            (by rw [List.nil_append, physicalLines])
          intro isReturn
          simp [isReturn] at noReturn
      | cons next others =>
          have noReturnLater : (next :: others).getLast? ≠ some '\r' := by
            rwa [List.getLast?_cons_cons] at noReturn
          refine physicalLines_cons_of_ne (Ne.symm noFeed.1) ?_
            (inductionHypothesis noFeed.2 noReturnLater)
          intro _ isFeed
          apply noFeed.2
          rw [Option.some.inj isFeed]
          exact List.mem_cons_self

/-- A carriage return and a line feed end a physical line that holds no line feed. -/
theorem physicalLines_append_returnFeed {line : List Char} (noFeed : '\n' ∉ line)
    (rest : List Char) :
    physicalLines (line ++ '\r' :: '\n' :: rest) = line :: physicalLines rest := by
  induction line with
  | nil => rw [List.nil_append, physicalLines]
  | cons c more inductionHypothesis =>
      rw [List.mem_cons, not_or] at noFeed
      refine physicalLines_cons_of_ne (Ne.symm noFeed.1) ?_ (inductionHypothesis noFeed.2)
      intro _ isFeed
      cases more with
      | nil => simp at isFeed
      | cons next others =>
          apply noFeed.2
          rw [Option.some.inj isFeed]
          exact List.mem_cons_self

/-- What stands behind the last line feed is a physical line as well, unless it is empty. -/
theorem physicalLines_of_noFeed {line : List Char} (noFeed : '\n' ∉ line)
    (nonempty : line ≠ []) : physicalLines line = [line] := by
  induction line with
  | nil => exact absurd rfl nonempty
  | cons c more inductionHypothesis =>
      rw [List.mem_cons, not_or] at noFeed
      cases more with
      | nil =>
          have ended : physicalLines [] = [] := rfl
          rw [physicalLines, ended]
          · exact fun same => noFeed.1 same.symm
          · simp
      | cons next others =>
          refine physicalLines_cons_of_ne (Ne.symm noFeed.1) ?_
            (inductionHypothesis noFeed.2 (List.cons_ne_nil next others))
          intro _ isFeed
          apply noFeed.2
          rw [Option.some.inj isFeed]
          exact List.mem_cons_self

/-- A line that starts with a character of its own and leaves no escape open is a logical line
by itself. -/
theorem joinLines_cons {c : Char} {rest : List Char} {lines : List (List Char)}
    (notBlank : Text.isBlank c = false) (notComment : isSkipped (c :: rest) = false)
    (closed : leavesEscape false (c :: rest) = false) :
    joinLines none ((c :: rest) :: lines) = (c :: rest) :: joinLines none lines := by
  rw [joinLines, Text.trimStart_cons_of_not_blank notBlank, notComment,
    continues_eq_leavesEscape, closed]
  rfl

end LayeredConfig.Properties
