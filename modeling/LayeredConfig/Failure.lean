/-!
Everything that can go wrong while a configuration is assembled, looked up or bound, by its
cause. The wording is in one function.
-/

namespace LayeredConfig

/-- Why a file cannot be read. -/
inductive FileFailure where
  | notFound
  | isDirectory
  | notDirectory
  | nameTooLong
  | zeroCharacter
  | other (text : String)
  deriving DecidableEq, Repr

def FileFailure.message : FileFailure → String
  | .notFound => "No such file or directory (os error 2)"
  | .isDirectory => "Is a directory (os error 21)"
  | .notDirectory => "Not a directory (os error 20)"
  | .nameTooLong => "File name too long (os error 36)"
  | .zeroCharacter => "file name contained an unexpected NUL byte"
  | .other text => text

/-- Why an operation on a configuration fails. -/
inductive Failure where
  /-- No level of the converter's lineage declares what it converts to. -/
  | unresolvedType (converter : String)
  /-- A level of the lineage declares a number of types other than one. -/
  | malformedType (converter : String) (arguments : Nat)
  /-- A source or a provider cannot be loaded. -/
  | load (reason : String)
  /-- A resource is malformed. -/
  | parse (reason : String)
  /-- A file cannot be read. -/
  | file (cause : FileFailure)
  /-- The merged properties do not fit the shape they are bound to. -/
  | bind (reason : String)
  /-- A converter rejects a raw value. The key is empty as long as it is not known. -/
  | conversion (key : String) (reason : String)
  /-- No converter is registered for the type. -/
  | missingConverter (typeName : String)
  /-- No source defines the property. -/
  | noSuchProperty (key : String)
  deriving DecidableEq, Repr

namespace Failure

def message : Failure → String
  | .unresolvedType converter =>
    "Can not add converter " ++ converter ++ " that is not parameterized with a type"
  | .malformedType converter arguments =>
    "Converter " ++ converter ++ " must be parameterized with a single type (found " ++
      toString arguments ++ ")"
  | .load reason => "Failed to load configuration: " ++ reason
  | .parse reason => "Failed to parse configuration: " ++ reason
  | .file cause => "IO error: " ++ cause.message
  | .bind reason => "Failed to deserialize configuration: " ++ reason
  | .conversion key reason => "Failed to convert property '" ++ key ++ "': " ++ reason
  | .missingConverter typeName => "No converter registered for type " ++ typeName
  | .noSuchProperty key => "Property '" ++ key ++ "' not found in any configuration source"

/-- A rejection that is not yet tied to a property. -/
def rejected (reason : String) : Failure :=
  .conversion "" reason

/-- Names the property in a rejection that names none. Every other failure stays as it is. -/
def forKey (key : String) : Failure → Failure
  | .conversion "" reason => .conversion key reason
  | failure => failure

end Failure

end LayeredConfig
