import LayeredConfig.Properties.Entry
import LayeredConfig.Proofs.EscapeState

/-!
A logical line may be cut into pieces that stand on physical lines of their own, with blanks in
front of them and a backslash behind each that is not the last. Blank lines and comments may
stand around it, and every physical line may end in a line feed or in a carriage return with a
line feed. None of these choices reaches the reader: from every layout it gets back the logical
lines that were laid out.
-/

namespace LayeredConfig.Properties

inductive LineEnd where
  | feed
  | returnFeed
  deriving DecidableEq, Repr

def LineEnd.text : LineEnd → List Char
  | .feed => ['\n']
  | .returnFeed => ['\r', '\n']

/-- A physical line with the end that it is written with. -/
structure WrittenLine where
  text : List Char
  ending : LineEnd
  noFeed : '\n' ∉ text

/-- The text of written lines, where the end of the last one may be left out. -/
def writeLines (unended : Bool) : List WrittenLine → List Char
  | [] => []
  | [last] => last.text ++ if unended then [] else last.ending.text
  | line :: next :: rest => line.text ++ line.ending.text ++ writeLines unended (next :: rest)

/-- A written line as it is read: a carriage return at its end may be lost to the line feed. -/
def ReadAs (written read : List Char) : Prop :=
  read = written ∨ written = read ++ ['\r']

/-- The line feed takes one carriage return before it along. -/
theorem physicalLines_append_ending (line : WrittenLine) (rest : List Char) :
    ∃ read, ReadAs line.text read ∧
      physicalLines (line.text ++ line.ending.text ++ rest) = read :: physicalLines rest := by
  obtain ⟨text, ending, noFeed⟩ := line
  rw [List.append_assoc]
  cases ending with
  | returnFeed => exact ⟨text, Or.inl rfl, physicalLines_append_returnFeed noFeed rest⟩
  | feed =>
      by_cases lastReturn : text.getLast? = some '\r'
      · obtain ⟨read, rfl⟩ := List.getLast?_eq_some_iff.mp lastReturn
        refine ⟨read, Or.inr rfl, ?_⟩
        have noFeedBefore : '\n' ∉ read := fun member => noFeed (List.mem_append_left _ member)
        rw [List.append_assoc]
        exact physicalLines_append_returnFeed noFeedBefore rest
      · exact ⟨text, Or.inl rfl, physicalLines_append_feed noFeed lastReturn rest⟩

/-- An empty line at the end of a text makes no difference. -/
theorem joinLines_empty (pending : Option (List Char)) :
    joinLines pending [[]] = joinLines pending [] := by
  cases pending with
  | none => rfl
  | some joined => exact congrArg (· :: []) (List.append_nil joined)

/-- The first of several written lines is read as the first physical line, whether a logical
line is pending or not. An empty last line without an end is no physical line, but it may be
taken for one. -/
theorem joinLines_writeLines_cons (unended : Bool) (line : WrittenLine)
    (rest : List WrittenLine) :
    ∃ read, ReadAs line.text read ∧ ∀ pending,
      joinLines pending (physicalLines (writeLines unended (line :: rest))) =
        joinLines pending (read :: physicalLines (writeLines unended rest)) := by
  cases rest with
  | cons next others =>
      obtain ⟨read, readAs, split⟩ :=
        physicalLines_append_ending line (writeLines unended (next :: others))
      refine ⟨read, readAs, ?_⟩
      intro pending
      rw [writeLines, split]
  | nil =>
      cases unended with
      | false =>
          obtain ⟨read, readAs, split⟩ := physicalLines_append_ending line []
          rw [List.append_nil] at split
          exact ⟨read, readAs, fun pending => congrArg (joinLines pending) split⟩
      | true =>
          refine ⟨line.text, Or.inl rfl, ?_⟩
          intro pending
          have written : writeLines true [line] = line.text := List.append_nil line.text
          rw [written]
          by_cases empty : line.text = []
          · rw [empty]
            exact (joinLines_empty pending).symm
          · rw [physicalLines_of_noFeed line.noFeed empty]
            rfl

/-- A line that means nothing: nothing but blanks, or a comment with blanks in front of it. -/
inductive IsFiller : List Char → Prop
  | blanks {text : List Char} : (∀ c ∈ text, Text.isBlank c = true) → IsFiller text
  | comment (indent : List Char) (mark : Char) (remark : List Char) :
      (∀ c ∈ indent, Text.isBlank c = true) → mark = '#' ∨ mark = '!' →
        IsFiller (indent ++ mark :: remark)

structure Filler extends WrittenLine where
  isFiller : IsFiller text

theorem IsFiller.isSkipped {text : List Char} (filler : IsFiller text) :
    isSkipped (Text.trimStart text) = true := by
  cases filler with
  | blanks blank =>
      have nothing := Text.trimStart_append_of_blank blank []
      rw [List.append_nil] at nothing
      rw [nothing]
      rfl
  | comment indent mark remark blank isMark =>
      rw [Text.trimStart_append_of_blank blank]
      rcases isMark with rfl | rfl <;> rfl

/-- The carriage return that a line feed takes along is a blank or the end of a comment. -/
theorem IsFiller.read {text read : List Char} (filler : IsFiller text)
    (readAs : ReadAs text read) : IsFiller read := by
  rcases readAs with rfl | rfl
  · exact filler
  · generalize split : read ++ ['\r'] = whole at filler
    cases filler with
    | blanks blank =>
        refine .blanks fun c member => blank c ?_
        rw [← split]
        exact List.mem_append_left _ member
    | comment indent mark remark blank isMark =>
        rcases List.eq_nil_or_concat remark with rfl | ⟨shorter, last, rfl⟩
        · obtain ⟨-, same⟩ := List.append_inj' split rfl
          have markIsReturn : mark = '\r' := (List.singleton_inj.mp same).symm
          rw [markIsReturn] at isMark
          exact absurd isMark (by decide)
        · rw [List.concat_eq_append, ← List.cons_append, ← List.append_assoc] at split
          obtain ⟨rfl, -⟩ := List.append_inj' split rfl
          exact .comment indent mark shorter blank isMark

/-- Between logical lines a filler is passed over. -/
theorem joinLines_filler (unended : Bool) (filler : Filler) (rest : List WrittenLine) :
    joinLines none (physicalLines (writeLines unended (filler.toWrittenLine :: rest))) =
      joinLines none (physicalLines (writeLines unended rest)) := by
  obtain ⟨read, readAs, reads⟩ := joinLines_writeLines_cons unended filler.toWrittenLine rest
  rw [reads, joinLines, (filler.isFiller.read readAs).isSkipped]
  rfl

theorem joinLines_fillers (unended : Bool) (fillers : List Filler) (rest : List WrittenLine) :
    joinLines none
        (physicalLines (writeLines unended (fillers.map Filler.toWrittenLine ++ rest))) =
      joinLines none (physicalLines (writeLines unended rest)) := by
  induction fillers with
  | nil => rfl
  | cons filler others inductionHypothesis =>
      exact (joinLines_filler unended filler _).trans inductionHypothesis

/-- A part of a logical line with what is written around it. It does not begin with a blank,
which would be taken for a part of the indentation, and it does not end in an odd number of
backslashes, of which the last would be taken for a mark of continuation. -/
structure Piece where
  text : List Char
  indent : List Char
  ending : LineEnd
  noFeed : '\n' ∉ text
  noReturn : '\r' ∉ text
  flush : ∀ c ∈ text.head?, Text.isBlank c = false
  closed : trailingBackslashes text % 2 = 0
  indented : ∀ c ∈ indent, isSeparatorBlank c = true

namespace Piece

/-- The mark at the end of a line that goes on in the next one. -/
def mark (goesOn : Bool) : List Char :=
  if goesOn then ['\\'] else []

theorem noEnd_written (piece : Piece) (goesOn : Bool) {c : Char} (isEnd : c = '\n' ∨ c = '\r') :
    c ∉ piece.indent ++ piece.text ++ mark goesOn := by
  rw [List.mem_append, List.mem_append]
  rintro ((inIndent | inText) | inMark)
  · have blank := piece.indented c inIndent
    rcases isEnd with rfl | rfl <;> exact absurd blank (by decide)
  · rcases isEnd with rfl | rfl
    · exact piece.noFeed inText
    · exact piece.noReturn inText
  · rcases isEnd with rfl | rfl <;> cases goesOn <;> revert inMark <;> decide

/-- The physical line of a piece. -/
def line (piece : Piece) (goesOn : Bool) : WrittenLine where
  text := piece.indent ++ piece.text ++ mark goesOn
  ending := piece.ending
  noFeed := piece.noEnd_written goesOn (Or.inl rfl)

/-- The physical lines of a piece and of those that follow it in the same logical line. -/
def lines : Piece → List Piece → List WrittenLine
  | last, [] => [last.line false]
  | piece, next :: rest => piece.line true :: next.lines rest

/-- The line of a piece is read as it is written, since it holds no carriage return. -/
theorem joinLines_line (unended : Bool) (piece : Piece) (goesOn : Bool)
    (rest : List WrittenLine) (pending : Option (List Char)) :
    joinLines pending (physicalLines (writeLines unended (piece.line goesOn :: rest))) =
      joinLines pending
        ((piece.line goesOn).text :: physicalLines (writeLines unended rest)) := by
  obtain ⟨read, readAs, reads⟩ := joinLines_writeLines_cons unended (piece.line goesOn) rest
  rcases readAs with rfl | lost
  · exact reads pending
  · have noReturn := piece.noEnd_written goesOn (Or.inr rfl)
    have holdsReturn : '\r' ∈ (piece.line goesOn).text := by
      rw [lost]
      exact List.mem_append_right _ (List.mem_singleton.mpr rfl)
    exact absurd holdsReturn noReturn

/-- Of the line of a piece, the indentation is taken away and nothing else. -/
theorem trimStart_line (piece : Piece) (goesOn : Bool) :
    Text.trimStart (piece.line goesOn).text = piece.text ++ mark goesOn := by
  have flush := piece.flush
  have indented (c : Char) (member : c ∈ piece.indent) : Text.isBlank c = true :=
    isBlank_of_isSeparatorBlank (piece.indented c member)
  have written : (piece.line goesOn).text = piece.indent ++ (piece.text ++ mark goesOn) :=
    List.append_assoc _ _ _
  rw [written, Text.trimStart_append_of_blank indented]
  cases text : piece.text with
  | nil => cases goesOn <;> rfl
  | cons c rest =>
      rw [text] at flush
      exact Text.trimStart_cons_of_not_blank (flush c rfl)

theorem continues_text (piece : Piece) : continues piece.text = false := by
  rw [continues, piece.closed]
  rfl

theorem continues_marked (piece : Piece) : continues (piece.text ++ ['\\']) = true := by
  have next : (trailingBackslashes piece.text + 1) % 2 = 1 := by
    have closed := piece.closed
    omega
  rw [continues, trailingBackslashes_concat, if_pos rfl, next]
  rfl

/-- A piece with a mark behind it is joined to what is pending. -/
theorem joinLines_marked (unended : Bool) (piece : Piece) (rest : List WrittenLine)
    (joined : List Char) :
    joinLines (some joined) (physicalLines (writeLines unended (piece.line true :: rest))) =
      joinLines (some (joined ++ piece.text)) (physicalLines (writeLines unended rest)) := by
  have marked : piece.text ++ mark true = piece.text ++ ['\\'] := rfl
  rw [joinLines_line, joinLines, trimStart_line, marked, piece.continues_marked,
    List.dropLast_concat]
  rfl

/-- A piece without a mark completes the logical line. -/
theorem joinLines_last (unended : Bool) (piece : Piece) (rest : List WrittenLine)
    (joined : List Char) :
    joinLines (some joined) (physicalLines (writeLines unended (piece.line false :: rest))) =
      (joined ++ piece.text) :: joinLines none (physicalLines (writeLines unended rest)) := by
  have unmarked : piece.text ++ mark false = piece.text := List.append_nil piece.text
  rw [joinLines_line, joinLines, trimStart_line, unmarked, piece.continues_text]
  rfl

/-- The lines of several pieces complete the logical line. By induction on the pieces that
follow, with what is pending generalised. -/
theorem joinLines_lines (unended : Bool) (piece : Piece) (more : List Piece)
    (rest : List WrittenLine) (joined : List Char) :
    joinLines (some joined)
        (physicalLines (writeLines unended (piece.lines more ++ rest))) =
      (joined ++ (piece :: more).flatMap Piece.text) ::
        joinLines none (physicalLines (writeLines unended rest)) := by
  induction more generalizing piece joined with
  | nil =>
      rw [List.flatMap_singleton]
      exact joinLines_last unended piece rest joined
  | cons next others inductionHypothesis =>
      rw [lines, List.cons_append, joinLines_marked, inductionHypothesis, List.append_assoc,
        ← List.flatMap_cons]

end Piece

/-! ## Layouts -/

/-- A logical line that is cut into pieces. The first of them says that it is neither blank nor
a comment. -/
structure CutLine where
  first : Piece
  more : List Piece
  nonempty : first.text ≠ []
  noComment : ∀ c ∈ first.text.head?, c ≠ '#' ∧ c ≠ '!'

namespace CutLine

/-- The logical line itself. -/
def joined (line : CutLine) : List Char :=
  (line.first :: line.more).flatMap Piece.text

def lines (line : CutLine) : List WrittenLine :=
  line.first.lines line.more

theorem not_skipped (line : CutLine) (goesOn : Bool) :
    isSkipped (Text.trimStart (line.first.line goesOn).text) = false := by
  have noComment := line.noComment
  rw [Piece.trimStart_line]
  cases text : line.first.text with
  | nil => exact absurd text line.nonempty
  | cons c rest =>
      rw [text] at noComment
      obtain ⟨notHash, notBang⟩ := noComment c rfl
      simp [isSkipped, notHash, notBang]

/-- A line that is not skipped begins a logical line, of which nothing is pending yet. -/
theorem joinLines_first (unended : Bool) (line : CutLine) (goesOn : Bool)
    (rest : List WrittenLine) :
    joinLines none (physicalLines (writeLines unended (line.first.line goesOn :: rest))) =
      joinLines (some [])
        (physicalLines (writeLines unended (line.first.line goesOn :: rest))) := by
  rw [Piece.joinLines_line, Piece.joinLines_line, joinLines, joinLines, line.not_skipped]
  rfl

theorem joinLines_lines (unended : Bool) (line : CutLine) (rest : List WrittenLine) :
    joinLines none (physicalLines (writeLines unended (line.lines ++ rest))) =
      line.joined :: joinLines none (physicalLines (writeLines unended rest)) := by
  have begins : joinLines none (physicalLines (writeLines unended (line.lines ++ rest))) =
      joinLines (some []) (physicalLines (writeLines unended (line.lines ++ rest))) := by
    rw [lines]
    cases line.more with
    | nil => exact line.joinLines_first unended false rest
    | cons next others => exact line.joinLines_first unended true (next.lines others ++ rest)
  rw [begins]
  exact Piece.joinLines_lines unended line.first line.more rest []

end CutLine

/-- Logical lines with fillers before each of them and after the last. The last physical line of
all may stand without an end. -/
structure Layout where
  blocks : List (List Filler × CutLine)
  after : List Filler
  unended : Bool

namespace Layout

def blockLines (block : List Filler × CutLine) : List WrittenLine :=
  block.1.map Filler.toWrittenLine ++ block.2.lines

def text (layout : Layout) : List Char :=
  writeLines layout.unended
    (layout.blocks.flatMap blockLines ++ layout.after.map Filler.toWrittenLine)

/-- The logical lines that are laid out. -/
def logical (layout : Layout) : List (List Char) :=
  layout.blocks.map fun block => block.2.joined

theorem joinLines_blocks (unended : Bool) (blocks : List (List Filler × CutLine))
    (rest : List WrittenLine) :
    joinLines none (physicalLines (writeLines unended (blocks.flatMap blockLines ++ rest))) =
      (blocks.map fun block => block.2.joined) ++
        joinLines none (physicalLines (writeLines unended rest)) := by
  induction blocks with
  | nil => rfl
  | cons block others inductionHypothesis =>
      rw [List.flatMap_cons, blockLines, List.append_assoc, List.append_assoc,
        joinLines_fillers, CutLine.joinLines_lines, inductionHypothesis]
      rfl

/-- Every layout is read as the logical lines that it lays out, in their order. -/
theorem logicalLines_text (layout : Layout) : logicalLines layout.text = layout.logical := by
  have fillersOnly := joinLines_fillers layout.unended layout.after []
  rw [List.append_nil] at fillersOnly
  rw [logicalLines, text, joinLines_blocks, fillersOnly]
  exact List.append_nil _

/-- Three pieces, one of them empty and one that looks like a comment, between comments that look
as if they went on, a blank line and ends of both kinds. -/
theorem logicalLines_text_mixed :
    ∃ layout : Layout,
      layout.text = "# note \\\n\tk=a\\\r\n \\\n#b\n  \r\nx\\\\\n! end\\".toList ∧
        layout.logical = ["k=a#b".toList, "x\\\\".toList] ∧
          logicalLines layout.text = layout.logical := by
  have blanks {text : List Char} (blank : text.all Text.isBlank = true) :
      ∀ c ∈ text, Text.isBlank c = true :=
    List.all_eq_true.mp blank
  have indented {indent : List Char} (blank : indent.all isSeparatorBlank = true) :
      ∀ c ∈ indent, isSeparatorBlank c = true :=
    List.all_eq_true.mp blank
  let note : Filler :=
    ⟨⟨"# note \\".toList, .feed, by decide⟩,
      .comment [] '#' " note \\".toList (blanks rfl) (Or.inl rfl)⟩
  let blank : Filler := ⟨⟨"  ".toList, .returnFeed, by decide⟩, .blanks (blanks rfl)⟩
  let final : Filler :=
    ⟨⟨"! end\\".toList, .feed, by decide⟩,
      .comment [] '!' " end\\".toList (blanks rfl) (Or.inr rfl)⟩
  let opening : Piece :=
    ⟨"k=a".toList, ['\t'], .returnFeed, by decide, by decide, by rintro _ ⟨⟩; rfl, rfl,
      indented rfl⟩
  let empty : Piece := ⟨[], [' '], .feed, by decide, by decide, nofun, rfl, indented rfl⟩
  let closing : Piece :=
    ⟨"#b".toList, [], .feed, by decide, by decide, by rintro _ ⟨⟩; rfl, rfl, indented rfl⟩
  let path : Piece :=
    ⟨"x\\\\".toList, [], .feed, by decide, by decide, by rintro _ ⟨⟩; rfl, rfl, indented rfl⟩
  let layout : Layout :=
    { blocks :=
        [([note], ⟨opening, [empty, closing], nofun, by rintro _ ⟨⟩; decide⟩),
          ([blank], ⟨path, [], nofun, by rintro _ ⟨⟩; decide⟩)]
      after := [final]
      unended := true }
  exact ⟨layout, rfl, rfl, logicalLines_text layout⟩

end Layout

end LayeredConfig.Properties
