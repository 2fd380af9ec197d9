import LayeredConfig.Text.Split
import LayeredConfig.World.Basic

/-!
A resource is looked up below every root of a context, in their order, and every root that
holds it as a file gives a match.
-/

namespace LayeredConfig

/-- The roots below which resources are looked up. A root may occur several times. -/
structure Context where
  roots : List String
  deriving DecidableEq, Repr

namespace Context

/-- The environment variable that lists further roots. -/
def rootsVariable : String := "ORDINAL_CONFIG_PATH"

def empty : Context := ⟨[]⟩

/-- Stands for a root that is no text. Nothing is found below it, as below every path that holds a
zero character. -/
def namelessRoot : String := "\x00"

/-- The roots that a value lists, separated by colons. -/
def listedRoots (listed : ByteArray) : List String :=
  let pieces := (Text.pieces 0x3A listed.toList).filter fun piece => !piece.isEmpty
  pieces.map fun piece => (String.fromUTF8? ⟨piece.toArray⟩).getD namelessRoot

/-- The working directory followed by the roots that the environment lists. -/
def ambient (world : World) : Context where
  roots :=
    world.files.workingDirectory ::
      ((world.environment.bytes? rootsVariable).map listedRoots).getD []

def withRoots (context : Context) (roots : List String) : Context where
  roots := context.roots ++ roots

/-- The files that a resource is found in, in the order of the roots. -/
def resolve (context : Context) (files : FileSystem) (resource : String) : List String :=
  (context.roots.map fun root => Path.join root resource).filter files.isFile

end Context

end LayeredConfig
