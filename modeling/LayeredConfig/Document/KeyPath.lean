import LayeredConfig.Numeral.Whole
import LayeredConfig.Text.LowerCase

/-!
A top-level name of a structured document may spell out a path: identifiers joined by dots,
each followed by any number of indices in brackets. A name that is no such path is one step
as it stands.
-/

namespace LayeredConfig.Document

/-- A step of a path, into a table or into a list. An index below zero counts from the end. -/
inductive PathStep where
  | name (name : String)
  | index (index : Int)
  deriving DecidableEq, Repr

namespace PathStep

def isIdentifierChar (c : Char) : Bool :=
  c.isAlphanum || c == '_' || c == '-' || c == ' '

def isIndexBlank (c : Char) : Bool :=
  c == ' ' || c == '\t'

/-- The number between brackets: an optional minus sign and digits. -/
def readIndex (inside : List Char) : Option Int :=
  let trimmed := ((inside.dropWhile isIndexBlank).reverse.dropWhile isIndexBlank).reverse
  if trimmed.head? == some '+' then none else Numeral.readSigned64? 10 trimmed

/-- The steps after the first identifier of a path. The number of steps is bounded by
`fuel`. -/
def readSteps : Nat → List Char → Option (List PathStep)
  | _, [] => some []
  | 0, _ => none
  | fuel + 1, '.' :: rest =>
    let identifier := rest.takeWhile isIdentifierChar
    if identifier.isEmpty then none
    else
      (readSteps fuel (rest.dropWhile isIdentifierChar)).map
        (.name (String.ofList identifier) :: ·)
  | fuel + 1, '[' :: rest =>
    match rest.dropWhile (· != ']') with
    | ']' :: after => do
      let index ← readIndex (rest.takeWhile (· != ']'))
      return .index index :: (← readSteps fuel after)
    | _ => none
  | _, _ => none

def lower : PathStep → PathStep
  | name identifier => name (Text.lower identifier)
  | index position => index position

end PathStep

/-- The steps that a top-level name stands for, their names in lower case. -/
def keyPath (name : String) : List PathStep :=
  let text := name.toList
  let identifier := text.takeWhile PathStep.isIdentifierChar
  let steps :=
    if identifier.isEmpty then none
    else PathStep.readSteps text.length (text.dropWhile PathStep.isIdentifierChar)
  match steps with
  | some steps => (PathStep.name (String.ofList identifier) :: steps).map PathStep.lower
  | none => [.name (Text.lower name)]

end LayeredConfig.Document
