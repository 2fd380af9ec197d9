import LayeredConfig.Numeral.Whole

/-!
A backslash gives the letters `t`, `n`, `r` and `f` the meaning of a control character, begins
a code with the letter `u`, and leaves any other character as it is. A code is four characters
that read as a hexadecimal number; the codes of surrogates stand for the replacement
character.
-/

namespace LayeredConfig.Properties

/-- A code that cannot be read: what follows the letter, up to four characters. -/
structure MalformedEscape where
  digits : List Char
  deriving DecidableEq, Repr

def MalformedEscape.message (malformed : MalformedEscape) : String :=
  "malformed \\u escape '\\u" ++ String.ofList malformed.digits ++ "'"

def escapeCode? (digits : List Char) : Option Nat :=
  match Numeral.readWhole 16 0 0xFFFFFFFF digits with
  | .ok code => some code.toNat
  | .error _ => none

/-- The character with a code, or the replacement character if there is none. -/
def charOfCode (code : Nat) : Char :=
  if code.isValidChar then Char.ofNat code else Char.ofNat 0xFFFD

/-- What an escaped character other than the letter of a code stands for. -/
def escapedChar : Char → Char
  | 't' => '\t'
  | 'n' => '\n'
  | 'r' => '\r'
  | 'f' => '\x0c'
  | c => c

/-- The text with its escapes decoded. A backslash at the end stands for nothing. -/
def unescape : List Char → Except MalformedEscape (List Char)
  | [] => .ok []
  | '\\' :: 'u' :: a :: b :: c :: d :: rest =>
    match escapeCode? [a, b, c, d] with
    | some code => (unescape rest).map (charOfCode code :: ·)
    | none => .error ⟨[a, b, c, d]⟩
  | '\\' :: 'u' :: digits => .error ⟨digits⟩
  | '\\' :: c :: rest => (unescape rest).map (escapedChar c :: ·)
  | ['\\'] => .ok []
  | c :: rest => (unescape rest).map (c :: ·)

/-- The decoded text, or the text as it stands where it cannot be decoded. -/
def unescapeLeniently (text : List Char) : List Char :=
  match unescape text with
  | .ok decoded => decoded
  | .error _ => text

end LayeredConfig.Properties
