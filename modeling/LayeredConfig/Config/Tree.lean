import LayeredConfig.Config.Basic
import LayeredConfig.Text.Split

/-!
To bind a configuration its properties are put into one tree, the lowest source first. The dots
of a key separate the names that lead to its value; a key with an empty name has no place in
the tree. What is put later replaces what is in its way.
-/

namespace LayeredConfig

/-- A tree of texts under names. -/
inductive Tree where
  | leaf (text : String)
  | table (entries : List (String × Tree))
  deriving Inhabited

namespace Tree

/-- The entries of a table. A leaf has none. -/
def entries : Tree → List (String × Tree)
  | .leaf _ => []
  | .table entries => entries

/-- Puts a text at the end of the names. A leaf on the way becomes a table. -/
def put (text : String) : List String → List (String × Tree) → List (String × Tree)
  | [], entries => entries
  | [name], entries => Entries.insert name (.leaf text) entries
  | name :: rest, entries =>
    let below := ((Entries.find? name entries).map Tree.entries).getD []
    Entries.insert name (.table (put text rest below)) entries

/-- The names that a key consists of, unless one of them is empty. -/
def segments? (key : String) : Option (List String) :=
  let segments := Text.split '.' key
  if segments.any String.isEmpty then none else some segments

def putProperty (entries : List (String × Tree)) (property : String × String) :
    List (String × Tree) :=
  match segments? property.1 with
  | some segments => put property.2 segments entries
  | none => entries

/-- Puts the listed properties of a source into a tree, in the order of the list. -/
def putListing (entries : List (String × Tree)) (listing : List (String × String)) :
    List (String × Tree) :=
  listing.foldl putProperty entries

/-- The tree of the listings of several sources, the highest-ranking first. -/
def merge (listings : List (List (String × String))) : Tree :=
  .table (listings.reverse.foldl putListing [])

end Tree

/-- An order in which sources enumerate their properties. A map enumerates them in any order it
likes. -/
structure Enumeration where
  list : Source → NameMap String → List (String × String)
  perm : ∀ source properties, (list source properties).Perm properties.entries

/-- The order in which the maps hold their entries. -/
def Enumeration.held : Enumeration where
  list _ properties := properties.entries
  perm _ properties := .refl properties.entries

def Config.tree (config : Config) (enumeration : Enumeration) (world : World) : Tree :=
  .merge (config.sources.map fun source => enumeration.list source (source.properties world))

end LayeredConfig
