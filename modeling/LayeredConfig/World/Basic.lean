import LayeredConfig.World.Environment
import LayeredConfig.World.FileSystem

/-!
What a configuration can observe outside itself: files, environment variables and the
properties of the running system.
-/

namespace LayeredConfig

/-- Files, environment variables and system properties at one moment. -/
structure World where
  files : FileSystem
  environment : Environment
  system : NameMap String

end LayeredConfig
