import LayeredConfig.Failure
import LayeredConfig.NameMap
import LayeredConfig.World.Path

/-!
# File systems

The files below one working directory. A file system is a list of nodes, each under the
components that lead to it; a path is followed component by component, so that every
directory on its way has to exist. A file that is found need not be readable.
-/

namespace LayeredConfig

inductive FileNode where
  | file (content : ByteArray)
  /-- A regular file that the system refuses to read, for want of permission or otherwise. -/
  | unreadable (cause : FileFailure)
  | directory

namespace FileNode

/-- Whether the node is a regular file, be it readable or not. -/
def isFile : FileNode → Bool
  | .directory => false
  | _ => true

def read : FileNode → Except FileFailure ByteArray
  | .file content => .ok content
  | .unreadable cause => .error cause
  | .directory => .error .isDirectory

end FileNode

/-- The nodes below a working directory, and the text that names that directory. -/
structure FileSystem where
  workingDirectory : String
  nodes : List (List String × FileNode)

namespace FileSystem

/-- A place that a path has reached: a number of steps above the working directory, or the
components of a place below it. -/
inductive Place where
  | above (steps : Nat)
  | below (components : List String)
  deriving DecidableEq, Repr

/-- The longest name of a directory entry, in bytes. -/
def longestName : Nat := 255

/-- The longest path, in bytes. -/
def longestPath : Nat := 4095

/-- The node at a list of components, of which the empty list is the working directory. -/
def nodeAt? (fs : FileSystem) (components : List String) : Option FileNode :=
  if components.isEmpty then some .directory
  else (fs.nodes.find? fun node => node.1 == components).map Prod.snd

/-- The node at a place. The directories above the working directory exist. -/
def nodeAtPlace? (fs : FileSystem) : Place → Option FileNode
  | .above _ => some .directory
  | .below components => fs.nodeAt? components

def Place.parent : Place → Place
  | .above steps => .above (steps + 1)
  | .below [] => .above 1
  | .below components => .below components.dropLast

/-- The place one component further. Nothing is known to lie beside the working directory. -/
def step (fs : FileSystem) (place : Place) (component : String) : Except FileFailure Place :=
  match fs.nodeAtPlace? place with
  | none => .error .notFound
  | some (.file _) => .error .notDirectory
  | some (.unreadable _) => .error .notDirectory
  | some .directory =>
    if component = ".." then .ok place.parent
    else if longestName < component.utf8ByteSize then .error .nameTooLong
    else
      match place with
      | .above _ => .error .notFound
      | .below components =>
        if (fs.nodeAt? (components ++ [component])).isSome then
          .ok (.below (components ++ [component]))
        else .error .notFound

/-- Where a path starts: at the working directory if it is relative or begins with that
directory's own text, and far above it otherwise. -/
def start (fs : FileSystem) (path : String) : Place × List String :=
  let own := Path.components fs.workingDirectory
  let components := Path.components path
  if path = fs.workingDirectory ∨ (fs.workingDirectory ++ "/").isPrefixOf path then
    (.below [], components.drop own.length)
  else if Path.isAbsolute path then (.above own.length, components)
  else (.below [], components)

def node (fs : FileSystem) (path : String) : Except FileFailure FileNode := do
  if path.toList.contains '\x00' then throw .zeroCharacter
  if path.isEmpty then throw .notFound
  if longestPath < path.utf8ByteSize then throw .nameTooLong
  let (place, components) := fs.start path
  let place ← components.foldlM fs.step place
  match fs.nodeAtPlace? place with
  | none => throw .notFound
  | some node =>
    if node.isFile && Path.requiresDirectory path then throw .notDirectory else pure node

def read (fs : FileSystem) (path : String) : Except FileFailure ByteArray := do
  (← fs.node path).read

def pathExists (fs : FileSystem) (path : String) : Bool :=
  match fs.node path with
  | .ok _ => true
  | .error _ => false

def isFile (fs : FileSystem) (path : String) : Bool :=
  match fs.node path with
  | .ok node => node.isFile
  | .error _ => false

def setNode (fs : FileSystem) (components : List String) (node : FileNode) : FileSystem :=
  { fs with
    nodes := (components, node) :: fs.nodes.filter fun other => other.1 != components }

/-- Makes a directory where nothing stands. -/
def makeMissing (fs : FileSystem) (components : List String) : FileSystem :=
  if (fs.nodeAt? components).isSome then fs else fs.setNode components .directory

/-- Makes the directories on the way from `done` along the components. -/
def makeDirectoriesFrom (fs : FileSystem) (done : List String) : List String → FileSystem
  | [] => fs
  | component :: rest =>
    (fs.makeMissing (done ++ [component])).makeDirectoriesFrom (done ++ [component]) rest

/-- Makes the directories that lead to the components. -/
def makeDirectories (fs : FileSystem) (components : List String) : FileSystem :=
  fs.makeDirectoriesFrom [] components

/-- The components of a relative path, in which a double dot takes the one before it away. -/
def placeComponents (path : String) : List String :=
  (Path.components path).foldl
    (fun place component => if component = ".." then place.dropLast else place ++ [component])
    []

/-- Writes a file, and makes the directories that lead to it. -/
def write (fs : FileSystem) (path : String) (content : ByteArray) : FileSystem :=
  let components := placeComponents path
  (fs.makeDirectories components.dropLast).setNode components (.file content)

/-- Makes a directory with all that lead to it. -/
def makeDirectory (fs : FileSystem) (path : String) : FileSystem :=
  fs.makeDirectories (placeComponents path)

def remove (fs : FileSystem) (path : String) : FileSystem :=
  if fs.isFile path then
    let components := placeComponents path
    { fs with nodes := fs.nodes.filter fun other => other.1 != components }
  else fs

end FileSystem

end LayeredConfig
