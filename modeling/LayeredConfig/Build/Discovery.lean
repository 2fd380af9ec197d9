import LayeredConfig.Conversion.Converter
import LayeredConfig.Source.Provider

/-!
What a builder is to pick up without naming it is asked of a discovery: sources, providers and
converters, by a query each. A discovery answers for the moment at which it is asked, and nothing
of what it has answered before is kept. Whoever asks puts the question down.
-/

namespace LayeredConfig

/-- Sources, providers and converters that can be discovered. -/
structure Catalog where
  sources : List Source
  providers : List Provider
  converters : List Converter

/-- What the modules of a program have registered. A registration is a function that makes the
instance, and it is called anew by every query. -/
structure Registrations where
  sources : List (World → Source)
  providers : List (World → Provider)
  converters : List (World → Converter)

namespace Registrations

def empty : Registrations := ⟨[], [], []⟩

/-- The instances that the registrations make at a moment. -/
def catalog (registrations : Registrations) (world : World) : Catalog where
  sources := registrations.sources.map fun make => make world
  providers := registrations.providers.map fun make => make world
  converters := registrations.converters.map fun make => make world

end Registrations

/-- Where a builder discovers. -/
inductive Discovery where
  | installed
  | listed (catalog : Catalog)
  /-- In a way of a program's own, which may look at the world and at the context. -/
  | custom (catalog : World → Context → Catalog)

def Discovery.isListed : Discovery → Bool
  | .listed _ => true
  | _ => false

/-- What a discovery has to answer at a moment. -/
def Discovery.catalog (discovery : Discovery) (installed : Registrations) (world : World)
    (context : Context) : Catalog :=
  match discovery with
  | .installed => installed.catalog world
  | .listed catalog => catalog
  | .custom catalog => catalog world context

inductive Query where
  | sources
  | providers
  | converters
  deriving DecidableEq, Repr

/-- What a query is answered with. -/
abbrev Query.Answer : Query → Type
  | .sources => List Source
  | .providers => List Provider
  | .converters => List Converter

def Catalog.answer (catalog : Catalog) : (query : Query) → query.Answer
  | .sources => catalog.sources
  | .providers => catalog.providers
  | .converters => catalog.converters

/-- A query that was put to a discovery. -/
structure Question where
  discovery : Discovery
  query : Query

/-- Computations that ask discoveries and put every question down, after those that were asked
before. -/
abbrev Asking := StateM (List Question)

/-- Asks a discovery. -/
def Discovery.ask (discovery : Discovery) (installed : Registrations) (world : World)
    (context : Context) (query : Query) : Asking query.Answer :=
  modifyGet fun asked =>
    ((discovery.catalog installed world context).answer query, asked ++ [⟨discovery, query⟩])

end LayeredConfig
