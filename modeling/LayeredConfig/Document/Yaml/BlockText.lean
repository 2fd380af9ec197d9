import LayeredConfig.Document.Yaml.Cursor

/-!
A text in block style stands on the lines below its header, indented further than what holds
it. A literal text keeps its line breaks; in a folded one a single break between two lines
that start at the indentation counts as a space. The header tells what becomes of the breaks
at the end.
-/

namespace LayeredConfig.Document.Yaml

/-- What becomes of the line breaks at the end of a text: all go, one stays, or all stay. -/
inductive Chomping where
  | strip
  | clip
  | keep
  deriving DecidableEq, Repr

/-- What the header of a text in block style tells. -/
structure BlockHeader where
  chomping : Chomping
  increment : Option Nat
  deriving DecidableEq, Repr

def chomping? : Char → Option Chomping
  | '+' => some .keep
  | '-' => some .strip
  | _ => none

def increment? (c : Char) : Option Nat :=
  (Numeral.digitValue? 10 c).filter (· ≠ 0)

/-- The header after its first character, and the number of its characters. The sign and the
digit may come in either order. -/
def readBlockHeader (text : List Char) : BlockHeader × Nat :=
  match text with
  | [] => (⟨.clip, none⟩, 0)
  | first :: rest =>
    match chomping? first, increment? first with
    | some chomping, _ =>
      match rest.head?.bind increment? with
      | some count => (⟨chomping, some count⟩, 2)
      | none => (⟨chomping, none⟩, 1)
    | none, some count =>
      match rest.head?.bind chomping? with
      | some chomping => (⟨chomping, some count⟩, 2)
      | none => (⟨.clip, some count⟩, 1)
    | none, none => (⟨.clip, none⟩, 0)

/-- The place after the spaces up to a column and after empty lines, with the number of the
latter. -/
def skipIndentation (indent : Nat) : Nat → Nat → Cursor → Nat × Cursor
  | 0, breaks, place => (breaks, place)
  | fuel + 1, breaks, place =>
    let spaces := (place.rest.takeWhile (· == ' ')).take (indent - place.column)
    let after := place.advanceBy spaces.length
    if after.rest.head? = some '\n' then skipIndentation indent fuel (breaks + 1) after.advance
    else (breaks, after)

/-- The greatest number of spaces at the start of the lines up to the first that is not empty,
the number of empty lines, and the place after the spaces. -/
def measureIndentation : Nat → Nat → Nat → Cursor → Nat × Nat × Cursor
  | 0, indent, breaks, place => (indent, breaks, place)
  | fuel + 1, indent, breaks, place =>
    let after := place.skipWhile (· == ' ')
    let indent := max indent after.column
    if after.rest.head? = some '\n' then
      measureIndentation fuel indent (breaks + 1) after.advance
    else (indent, breaks, after)

/-- A text in block style as far as it is read. `ended` tells whether the last line has a line
break, `indented` whether it starts with a blank, and `breaks` counts the empty lines after
it. -/
structure BlockDraft where
  text : List Char
  ended : Bool
  indented : Bool
  breaks : Nat
  place : Cursor

namespace BlockDraft

/-- What stands between the last line and the next. -/
def join (draft : BlockDraft) (literal : Bool) (blank : Bool) : List Char :=
  if !literal && draft.ended && !draft.indented && !blank then
    if draft.breaks = 0 then [' '] else List.replicate draft.breaks '\n'
  else (if draft.ended then ['\n'] else []) ++ List.replicate draft.breaks '\n'

/-- Reads the lines at the indentation. -/
def readLines (literal : Bool) (indent : Nat) : Nat → BlockDraft → BlockDraft
  | 0, draft => draft
  | fuel + 1, draft =>
    match draft.place.rest with
    | [] => draft
    | c :: _ =>
      if draft.place.column ≠ indent ∨ (indent = 0 ∧ startsTriple '.' draft.place.rest) then
        draft
      else
        let blank := isBlank c
        let (line, after) := draft.place.span (· != '\n')
        let text := draft.text ++ draft.join literal blank ++ line
        match after.rest with
        | [] => ⟨text, false, blank, 0, after⟩
        | _ =>
          let (breaks, next) := skipIndentation indent (after.rest.length + 1) 0 after.advance
          readLines literal indent fuel ⟨text, true, blank, breaks, next⟩

/-- The text with the line breaks at its end. At the end of a document a last line without
line break counts as if it had one. -/
def chomp (draft : BlockDraft) (chomping : Chomping) (indent : Nat) : List Char :=
  let final := if draft.ended then ['\n'] else []
  let completed :=
    if draft.place.rest.isEmpty && max indent 1 ≤ draft.place.column then ['\n'] else []
  match chomping with
  | .strip => draft.text
  | .clip => draft.text ++ final ++ completed
  | .keep => draft.text ++ final ++ completed ++ List.replicate draft.breaks '\n'

end BlockDraft

/-- The text in block style whose header is at a place, and the place after it. `outer` is the
column of what holds the text. -/
def readBlockText (literal : Bool) (outer : Int) (place : Cursor) :
    Option (List Char × Cursor) := do
  let (header, length) := readBlockHeader (place.rest.drop 1)
  let ended ← (place.advanceBy (length + 1)).endLine
  let first := ended.advance
  if first.rest.head? = some '\t' then none
  let fuel := first.rest.length + 1
  let (indent, breaks, content) :=
    match header.increment with
    | some increment =>
      let indent := (max outer 0).toNat + increment
      let (breaks, content) := skipIndentation indent fuel 0 first
      (indent, breaks, content)
    | none =>
      let (indent, breaks, content) := measureIndentation fuel 0 0 first
      (max indent (outer + 1).toNat, breaks, content)
  if content.column < indent ∧ outer < content.column then none
  let draft := BlockDraft.readLines literal indent fuel ⟨[], false, false, breaks, content⟩
  return (draft.chomp header.chomping indent, draft.place)

end LayeredConfig.Document.Yaml
