import LayeredConfig.Text.Printable

/-!
A text in a message stands between double quotes. The quote and the backslash are escaped,
the usual control characters have a letter of their own, and any other character that is not
shown as itself is written by its code point in lower-case hexadecimal digits.
-/

namespace LayeredConfig.Text

def hexDigits (n : Nat) : List Char :=
  Nat.toDigits 16 n

/-- How one character stands inside a quotation. -/
def quotedChar (c : Char) : List Char :=
  match c with
  | '"' => ['\\', '"']
  | '\\' => ['\\', '\\']
  | '\n' => ['\\', 'n']
  | '\r' => ['\\', 'r']
  | '\t' => ['\\', 't']
  | '\x00' => ['\\', '0']
  | c =>
    if isPrintable c then [c]
    else ['\\', 'u', '\x7b'] ++ hexDigits c.toNat ++ ['\x7d']

def quoted (text : String) : String :=
  "\"" ++ String.ofList (text.toList.flatMap quotedChar) ++ "\""

end LayeredConfig.Text
