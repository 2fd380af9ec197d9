import LayeredConfig.Document.Value
import LayeredConfig.Numeral.Decimal

/-!
A plain text may stand for a truth value, a number or nothing; which of them its form tells,
unless a tag does. A text in quotation marks or in block style is always a text.
-/

namespace LayeredConfig.Document.Yaml

open Numeral (Float64Bits readSigned64?)

/-- What a node stands for: a value, or nothing because its tag does not admit its text. -/
inductive Node where
  | value (value : Value)
  | refused

def Node.toValue : Node → Value
  | .value content => content
  | .refused => .absent

/-- A whole number, in a base that the first two characters may tell. -/
def readWhole (text : List Char) : Option Int :=
  let prefixed :=
    match text with
    | '0' :: 'x' :: rest => readSigned64? 16 rest
    | '0' :: 'o' :: rest => readSigned64? 8 rest
    | '+' :: rest => readSigned64? 10 rest
    | _ => none
  prefixed <|> readSigned64? 10 text

/-- The words for infinity and for the absence of a number. They have the form of a number but
no value that a document may hold. -/
def isNumberWord (text : String) : Bool :=
  [".inf", ".Inf", ".INF", "+.inf", "+.Inf", "+.INF", "-.inf", "-.Inf", "-.INF",
    ".nan", ".NaN", ".NAN"].contains text

/-- A floating-point number, which has a digit. -/
def readFloating (text : List Char) : Option Float64Bits :=
  if text.any Numeral.isDigit then
    match (Numeral.readFloating text : Except _ Float64Bits) with
    | .ok x => some x
    | .error _ => none
  else none

/-- The value of a plain text without tag. The words for infinity and for the absence of a
number are no values. -/
def resolve (text : String) : Option Value :=
  if ["", "~", "null"].contains text then some .absent
  else if ["true", "True", "TRUE"].contains text then some (.truth true)
  else if ["false", "False", "FALSE"].contains text then some (.truth false)
  else if isNumberWord text then none
  else
    match readWhole text.toList with
    | some n => some (.whole n)
    | none =>
      match readFloating text.toList with
      | some x => some (.number x)
      | none => some (.text text)

/-- The family of the tags that tell the type of a scalar. -/
def coreFamily : String := "tag:yaml.org,2002:"

/-- The node of a plain text with a tag of the family. -/
def resolveAs (suffix text : String) : Option Node :=
  match suffix with
  | "bool" =>
    if text = "true" then some (.value (.truth true))
    else if text = "false" then some (.value (.truth false))
    else some .refused
  | "int" => some (((readSigned64? 10 text.toList).map fun n => .value (.whole n)).getD .refused)
  | "float" =>
    if isNumberWord text then none
    else some (((readFloating text.toList).map fun x => .value (.number x)).getD .refused)
  | "null" => some (if text = "~" ∨ text = "null" then .value .absent else .refused)
  | _ => some (.value (.text text))

/-- The node of a plain text. A tag of another family makes it a text. -/
def resolvePlain (tag : Option (String × String)) (text : String) : Option Node :=
  match tag with
  | none => (resolve text).map .value
  | some (family, suffix) =>
    if family = coreFamily then resolveAs suffix text else some (.value (.text text))

end LayeredConfig.Document.Yaml
