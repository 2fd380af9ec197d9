import LayeredConfig.Document.KeyPath
import LayeredConfig.Document.Value
import LayeredConfig.NameMap

/-!
The top-level entries of a document are put into an empty table one after the other. A table
put where a table stands is merged with it; anything else replaces what stands there. Names
are in lower case, and a path makes the tables and lists on its way.
-/

namespace LayeredConfig.Document.Value

mutual

/-- Puts a value under a name into a value that becomes a table if it is none. -/
def put (name : String) (parent : Value) : Value → Value
  | .table entries =>
    let existing := (Entries.find? (Text.lower name) parent.entries).getD (.table [])
    .table (Entries.insert (Text.lower name) (putEntries existing entries) parent.entries)
  | .absent => .table (Entries.insert (Text.lower name) .absent parent.entries)
  | .truth b => .table (Entries.insert (Text.lower name) (.truth b) parent.entries)
  | .whole n => .table (Entries.insert (Text.lower name) (.whole n) parent.entries)
  | .number x => .table (Entries.insert (Text.lower name) (.number x) parent.entries)
  | .text s => .table (Entries.insert (Text.lower name) (.text s) parent.entries)
  | .list items => .table (Entries.insert (Text.lower name) (.list items) parent.entries)

/-- Puts all entries of a table into a value. Without entries the value stays what it is. -/
def putEntries (target : Value) : List (String × Value) → Value
  | [] => target
  | entry :: rest => putEntries (putEntry target entry) rest

def putEntry (target : Value) : String × Value → Value
  | (name, value) => put name target value

end

/-- The position of an index in a list of the given length. -/
def position (length : Nat) (index : Int) : Nat :=
  if index < 0 then length - index.natAbs else index.toNat

/-- The list, extended by absent values until it has the position. -/
def extend (items : List Value) (position : Nat) : List Value :=
  items ++ List.replicate (position + 1 - items.length) .absent

/-- Changes the value at a position of a list. -/
def changeItem (items : List Value) (position : Nat) (change : Value → Value) : List Value :=
  (extend items position).modify position change

/-- Puts a value at the end of a path that starts at a value. -/
def putAt (value : Value) : List PathStep → Value → Value
  | [], _ => value
  | [.name name], parent => put name parent value
  | [.index index], parent =>
    let position := position parent.items.length index
    .list (changeItem parent.items position fun _ => value)
  | .name name :: rest, parent =>
    let existing := (Entries.find? name parent.entries).getD .absent
    .table (Entries.insert name (putAt value rest existing) parent.entries)
  | .index index :: rest, parent =>
    let position := position parent.items.length index
    .list (changeItem parent.items position (putAt value rest))

def assemble (entries : List (String × Value)) : Value :=
  entries.foldl (fun document entry => putAt entry.2 (keyPath entry.1) document) (.table [])

end LayeredConfig.Document.Value
