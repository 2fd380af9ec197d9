import LayeredConfig.Source.Context
import LayeredConfig.Source.Loading

/-!
A provider produces sources when it is asked. The usual one looks a properties resource up
below every root of a context.
-/

namespace LayeredConfig

/-- A provider of sources. -/
inductive Provider where
  /-- One source for each root that holds the resource. -/
  | resource (resource : String) (optional : Bool)
  | fixed (sources : List Source)
  /-- Never any source. -/
  | failing (reason : String)
  /-- One of a program's own, which may look at the world and at the context. -/
  | custom (produce : World → Context → Except Failure (List Source))

namespace Provider

def resource? : Provider → Option String
  | .resource wanted _ => some wanted
  | _ => none

/-- The sources of the files that a resource is found in. -/
def resourceSources (files : FileSystem) (context : Context) (resource : String) :
    Except Failure (List Source) :=
  (context.resolve files resource).mapM (Source.loadProperties files)

/-- The sources that the provider produces. A required resource has to be found somewhere, and
a resource that is found has to be readable and well-formed. -/
def sources (world : World) (context : Context) : Provider → Except Failure (List Source)
  | .resource wanted optional =>
    if !optional && (context.resolve world.files wanted).isEmpty then
      .error (.load ("Required resource not found: " ++ wanted))
    else resourceSources world.files context wanted
  | .fixed sources => .ok sources
  | .failing reason => .error (.load reason)
  | .custom produce => produce world context

def allSources (world : World) (context : Context) (providers : List Provider) :
    Except Failure (List Source) :=
  (providers.mapM (sources world context)).map List.flatten

end Provider

inductive ProviderRequest where
  | resource (resource : String) (optional : Bool)
  | fixed (sources : List SourceRequest)
  | failing (reason : String)

namespace ProviderRequest

/-- Makes the provider, with the sources it holds. -/
def make (files : FileSystem) (counters : Counters) :
    ProviderRequest → Except Failure (Provider × Counters)
  | .resource wanted optional => .ok (.resource wanted optional, counters)
  | .fixed requests =>
    (SourceRequest.makeAll files counters requests).map fun (sources, counters) =>
      (.fixed sources, counters)
  | .failing reason => .ok (.failing reason, counters)

/-- Makes providers one after the other, up to the first that fails. -/
def makeAll (files : FileSystem) (counters : Counters) :
    List ProviderRequest → Except Failure (List Provider × Counters)
  | [] => .ok ([], counters)
  | request :: rest => do
    let (provider, counters) ← request.make files counters
    let (providers, counters) ← makeAll files counters rest
    pure (provider :: providers, counters)

end ProviderRequest

end LayeredConfig
