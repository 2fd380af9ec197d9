import LayeredConfig.Document.Value
import LayeredConfig.NameMap

/-!
A TOML document fills its tables piece by piece, and how a table came about decides what may
still be added to it. A table with a header is complete for dotted keys, a table that was only
mentioned on the way to another may get its header later, and a value admits no addition.
-/

namespace LayeredConfig.Document.Toml

/-- How a table came about: by its header, on the way of another header, or on the way of a
dotted key. -/
inductive Origin where
  | header
  | implied
  | dotted
  deriving DecidableEq, Repr

/-- What a name stands for: a finished value, a table, or tables that share a header, the last
one first. -/
inductive Node where
  | value (value : Value)
  | table (origin : Origin) (entries : List (String × Node))
  | tables (newest : List (String × Node)) (older : List (List (String × Node)))

structure Table where
  origin : Origin
  entries : List (String × Node)

namespace Table

def empty : Table :=
  ⟨.header, []⟩

def insert (table : Table) (name : String) (node : Node) : Table :=
  { table with entries := Entries.insert name node table.entries }

/-- Changes the table at the end of a path. Tables that are missing on the way are made, of
tables that share a header the last one is entered, and a dotted key does not enter a table
with a header. -/
def change (dotted : Bool) (action : Table → Option Table) :
    List String → Table → Option Table
  | [], table => action table
  | name :: rest, table =>
    match Entries.find? name table.entries with
    | none =>
      (change dotted action rest ⟨if dotted then .dotted else .implied, []⟩).map fun inner =>
        table.insert name (.table inner.origin inner.entries)
    | some (.value _) => none
    | some (.table origin entries) =>
      if dotted ∧ origin = .header then none
      else
        (change dotted action rest ⟨origin, entries⟩).map fun inner =>
          table.insert name (.table inner.origin inner.entries)
    | some (.tables newest older) =>
      (change dotted action rest ⟨.header, newest⟩).map fun inner =>
        table.insert name (.tables inner.entries older)

/-- Gives a new name a value. -/
def define (name : String) (value : Value) (table : Table) : Option Table :=
  match Entries.find? name table.entries with
  | none => some (table.insert name (.value value))
  | some _ => none

/-- Gives the last name of a dotted key a value. The names before it lead to a table that only
dotted keys have made. -/
def assign (path : List String) (name : String) (value : Value) (table : Table) :
    Option Table :=
  if path.isEmpty then table.define name value
  else
    table.change true
      (fun inner => if inner.origin = .dotted then inner.define name value else none) path

/-- Opens the table of a header. -/
def openTable (name : String) (table : Table) : Option Table :=
  match Entries.find? name table.entries with
  | none => some (table.insert name (.table .header []))
  | some (.table .implied entries) => some (table.insert name (.table .header entries))
  | some _ => none

/-- Opens one more of the tables that share a header. -/
def openElement (name : String) (table : Table) : Option Table :=
  match Entries.find? name table.entries with
  | none => some (table.insert name (.tables [] []))
  | some (.tables newest older) => some (table.insert name (.tables [] (newest :: older)))
  | some _ => none

end Table

mutual

def Node.toValue : Node → Value
  | .value value => value
  | .table _ entries => .table (entryValues entries)
  | .tables newest older => .list (elementValues [.table (entryValues newest)] older)

def entryValues : List (String × Node) → List (String × Value)
  | [] => []
  | entry :: rest => entryValue entry :: entryValues rest

def entryValue : String × Node → String × Value
  | (name, node) => (name, node.toValue)

/-- The values of tables, the last one first, put in front of values. -/
def elementValues (values : List Value) : List (List (String × Node)) → List Value
  | [] => values
  | entries :: older => elementValues (.table (entryValues entries) :: values) older

end

def Table.toValue (table : Table) : Value :=
  .table (entryValues table.entries)

end LayeredConfig.Document.Toml
