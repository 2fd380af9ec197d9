import LayeredConfig.Text.Blank

/-!
A physical line ends at a line feed, with or without a carriage return before it. Physical
lines make up logical ones: blank lines and comments are left out, blanks at the start of a
line are dropped, and a line that ends in an odd number of backslashes goes on in the next
one, with its last backslash taken away.
-/

namespace LayeredConfig.Properties

/-- The physical lines of a text. A text that ends in a line feed has no further line. -/
def physicalLines : List Char → List (List Char)
  | [] => []
  | '\n' :: rest => [] :: physicalLines rest
  | '\r' :: '\n' :: rest => [] :: physicalLines rest
  | c :: rest =>
    match physicalLines rest with
    | [] => [[c]]
    | line :: lines => (c :: line) :: lines

def trailingBackslashes (line : List Char) : Nat :=
  (line.reverse.takeWhile (· == '\\')).length

def continues (line : List Char) : Bool :=
  trailingBackslashes line % 2 == 1

/-- Whether a line without leading blanks is empty or a comment. -/
def isSkipped : List Char → Bool
  | [] => true
  | c :: _ => c == '#' || c == '!'

/-- The logical lines of the remaining physical lines, where `pending` is the part of a
logical line that is already joined. -/
def joinLines : Option (List Char) → List (List Char) → List (List Char)
  | none, [] => []
  | some joined, [] => [joined]
  | none, line :: rest =>
    let text := Text.trimStart line
    if isSkipped text then joinLines none rest
    else if continues text then joinLines (some text.dropLast) rest
    else text :: joinLines none rest
  | some joined, line :: rest =>
    let text := Text.trimStart line
    if continues text then joinLines (some (joined ++ text.dropLast)) rest
    else (joined ++ text) :: joinLines none rest

def logicalLines (content : List Char) : List (List Char) :=
  joinLines none (physicalLines content)

end LayeredConfig.Properties
