import LayeredConfig.Conversion.Converter
import LayeredConfig.NameMap

/-!
A registry holds at most one converter for each type. A newcomer takes the place of the
incumbent only if its priority is strictly greater, so that among equals the first stays.
-/

namespace LayeredConfig

structure Registration where
  priority : Int
  converter : Converter

/-- The registration that a converter itself asks for: the type it declares, and the priority
it carries. -/
def Converter.candidate (converter : Converter) : Except Failure (ValueType × Registration) :=
  converter.targetType.map fun target => (target, ⟨converter.effectivePriority, converter⟩)

/-- At most one registration for each type. -/
structure Registry where
  entries : List (ValueType × Registration)
  distinct : (Entries.keys entries).Nodup

namespace Registry

def empty : Registry where
  entries := []
  distinct := List.nodup_nil

def registration? (registry : Registry) (type : ValueType) : Option Registration :=
  Entries.find? type registry.entries

/-- Whether a priority is greater than that of the incumbent, if there is one. -/
def outranks (priority : Int) : Option Registration → Bool
  | none => true
  | some incumbent => incumbent.priority < priority

/-- Registers a converter for a type, unless the incumbent stays. -/
def register (registry : Registry) (target : ValueType) (newcomer : Registration) :
    Registry :=
  if outranks newcomer.priority (registry.registration? target) then
    { entries := Entries.insert target newcomer registry.entries
      distinct := Entries.nodup_insert registry.distinct }
  else registry

def registerEach (registry : Registry) (candidates : List (ValueType × Registration)) :
    Registry :=
  candidates.foldl (fun registry candidate => registry.register candidate.1 candidate.2)
    registry

/-- A change to a registry that may fail. What is done to the registry before a failure stays
done. -/
abbrev Registering := ExceptT Failure (StateM Registry)

/-- The result of a change, and the registry that it leaves behind. -/
def Registering.runOn (change : Registering Unit) (registry : Registry) :
    Except Failure Unit × Registry :=
  Id.run (change.run.run registry)

/-- Registers converters for the types they declare. All types are found before anything is
registered. -/
def registerDeclared (converters : List Converter) : Registering Unit := do
  let candidates ←
    (converters.mapM Converter.candidate : Except Failure (List (ValueType × Registration)))
  candidates.forM fun candidate =>
    modify fun registry => registry.register candidate.1 candidate.2

/-- The registry after converters are registered for the types they declare, if they are. -/
def registerAll (registry : Registry) (converters : List Converter) :
    Except Failure Registry :=
  let (result, after) := (registerDeclared converters).runOn registry
  result.map fun _ => after

def finish (registry : Registry) : List (ValueType × Converter) :=
  registry.entries.map fun entry => (entry.1, entry.2.converter)

theorem runOn_forM_register (candidates : List (ValueType × Registration))
    (registry : Registry) :
    Registering.runOn
        (candidates.forM fun candidate =>
          modify fun registry => registry.register candidate.1 candidate.2)
        registry =
      (.ok (), registry.registerEach candidates) := by
  induction candidates generalizing registry with
  | nil => rfl
  | cons candidate rest ih => exact ih _

theorem runOn_registerDeclared (converters : List Converter) (registry : Registry) :
    (registerDeclared converters).runOn registry =
      match converters.mapM Converter.candidate with
      | .error failure => (.error failure, registry)
      | .ok candidates => (.ok (), registry.registerEach candidates) := by
  rw [registerDeclared]
  cases converters.mapM Converter.candidate with
  | error failure => rfl
  | ok candidates => exact runOn_forM_register candidates registry

theorem registerAll_eq (registry : Registry) (converters : List Converter) :
    registry.registerAll converters =
      (converters.mapM Converter.candidate).map registry.registerEach := by
  rw [registerAll, runOn_registerDeclared]
  cases converters.mapM Converter.candidate <;> rfl

end Registry

end LayeredConfig
