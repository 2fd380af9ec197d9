import LayeredConfig.Text.Split

/-!
A path is a text whose components are separated by slashes. Empty components and single dots
lead nowhere, so they are not counted; a path keeps its spelling nevertheless.
-/

namespace LayeredConfig.Path

def isComponent (piece : List Char) : Bool :=
  piece != [] && piece != ['.']

def components (path : String) : List String :=
  ((Text.pieces '/' path.toList).filter isComponent).map String.ofList

def isAbsolute (path : String) : Bool :=
  path.toList.head? == some '/'

/-- Whether the path can only name a directory, because it ends in a slash or a dot. -/
def requiresDirectory (path : String) : Bool :=
  match (Text.pieces '/' path.toList).getLast? with
  | some piece => !isComponent piece
  | none => false

/-- The path of a resource below a root. An absolute resource replaces the root. -/
def join (root resource : String) : String :=
  if isAbsolute resource || root.isEmpty then resource
  else if root.toList.getLast? == some '/' then root ++ resource
  else root ++ "/" ++ resource

/-- The last component, unless it leads to the parent directory. -/
def fileName? (path : String) : Option String :=
  (components path).getLast?.filter (· ≠ "..")

/-- The part of the file name after its last dot. A name that only starts with a dot has
none. -/
def extension? (path : String) : Option String := do
  let name := (← fileName? path).toList
  let reversed := name.reverse
  match reversed.dropWhile (· ≠ '.') with
  | _ :: stem => if stem.isEmpty then none else some ()
  | [] => none
  some (String.ofList (reversed.takeWhile (· ≠ '.')).reverse)

end LayeredConfig.Path
