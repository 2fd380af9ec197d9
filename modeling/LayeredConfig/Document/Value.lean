import LayeredConfig.Numeral.Shortest
import LayeredConfig.Text.Quoted

/-!
# Values of a structured document

A structured document is a tree of tables and lists over scalars, whatever notation it was
read from. Inside a list a value has a text of its own, in which a table shows its entries and
a list stands in quotation marks.
-/

namespace LayeredConfig.Document

inductive Value where
  | absent
  | truth (value : Bool)
  | whole (value : Int)
  | number (value : Numeral.Float64Bits)
  | text (value : String)
  | list (items : List Value)
  | table (entries : List (String × Value))
  deriving Inhabited

namespace Value

/-- The entries of a table. Any other value has none. -/
def entries : Value → List (String × Value)
  | .table entries => entries
  | _ => []

/-- The items of a list. Any other value has none. -/
def items : Value → List Value
  | .list items => items
  | _ => []

mutual

def render : Value → String
  | .absent => "nil"
  | .truth true => "true"
  | .truth false => "false"
  | .whole n => toString n
  | .number x => x.render
  | .text s => s
  | .list items => Text.quoted (renderItems items)
  | .table entries => "\x7b " ++ renderEntries entries ++ " \x7d"

def renderItems : List Value → String
  | [] => ""
  | item :: rest => item.render ++ ", " ++ renderItems rest

def renderEntries : List (String × Value) → String
  | [] => ""
  | entry :: rest => renderEntry entry ++ ", " ++ renderEntries rest

def renderEntry : String × Value → String
  | (name, value) => name ++ " => " ++ value.render

end

/-- The text of a value that is a property or an item of one. -/
def scalarText : Value → String
  | .absent => ""
  | value => value.render

mutual

/-- The properties that a value below a key gives: one for each leaf, under the names that
lead to it joined by dots. A list is one leaf, its items joined by commas. -/
def flattenAt (key : String) : Value → List (String × String)
  | .table entries => flattenEntries key entries
  | .list items => [(key, ",".intercalate (items.map scalarText))]
  | value => [(key, value.scalarText)]

def flattenEntries (key : String) : List (String × Value) → List (String × String)
  | [] => []
  | entry :: rest => flattenEntry key entry ++ flattenEntries key rest

def flattenEntry (key : String) : String × Value → List (String × String)
  | (name, value) => value.flattenAt (key ++ "." ++ name)

end

def flatten (entries : List (String × Value)) : List (String × String) :=
  entries.flatMap fun entry => entry.2.flattenAt entry.1

end Value

end LayeredConfig.Document
