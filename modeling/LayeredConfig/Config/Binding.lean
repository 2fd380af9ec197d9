import LayeredConfig.Config.Tree
import LayeredConfig.Conversion.Reading

/-!
A shape says what a merged tree is to be read as. Every leaf of the tree is a text, so numbers
and truth values are read from texts, and a few words stand for truth and its absence among
numbers too. A misfit of such a reading tells the names that lead to it.
-/

namespace LayeredConfig

/-- A value that a tree was bound to. -/
inductive Bound where
  | tree (tree : Tree)
  | absent
  | text (text : String)
  | whole (n : Int)
  | binary32 (x : Numeral.Float32Bits)
  | binary64 (x : Numeral.Float64Bits)
  | truth (value : Bool)
  | char (c : Char)
  | record (fields : List (String × Bound))
  | choice (name : String)
  | choiceOf (name : String) (content : Bound)
  deriving Inhabited

/-- What a missing field becomes. -/
inductive Presence where
  | required
  | optional
  | default (value : Bound)

/-- What a tree is to be read as. -/
inductive Shape where
  | tree
  | text
  /-- A whole number of at most sixty-four bits. -/
  | whole (type : WholeType)
  | binary32
  | binary64
  | truth
  | char
  | list
  /-- Any names, all with values of one shape. -/
  | mapping (content : Shape)
  /-- Named fields. A closed record refuses other names. -/
  | record (description : String) (closed : Bool)
      (fields : List (String × Presence × Shape))
  /-- One of several variants, with or without a content. -/
  | choice (name : String) (variants : List (String × Option Shape))

/-- Why a tree does not fit a shape. -/
inductive Misfit where
  /-- Something else was found than wanted, at the end of the names. -/
  | reading (found wanted : String) (names : List String)
  | other (text : String)
  deriving DecidableEq, Repr

namespace Misfit

/-- A name in front of a path. No dot follows it where the path is empty or starts with a
bracket. -/
def joinName (name path : String) : String :=
  match path.toList.head? with
  | none => name
  | some c => if c = '[' then name ++ path else name ++ "." ++ path

/-- The misfit seen from one level further out. -/
def below (name : String) : Misfit → Misfit
  | .reading found wanted names => .reading found wanted (name :: names)
  | .other text => .other text

def message : Misfit → String
  | .reading found wanted names =>
    "invalid type: " ++ found ++ ", expected " ++ wanted ++
      if names.isEmpty then ""
      else " for key \x60" ++ names.foldr joinName "" ++ "\x60"
  | .other text => text

end Misfit

namespace Binding

/-- The words that stand for one and for zero. -/
def numberWord? (text : String) : Option Bool :=
  let word := Text.lower text
  if ["true", "on", "yes"].contains word then some true
  else if ["false", "off", "no"].contains word then some false
  else none

def found : Tree → String
  | .leaf text => "string " ++ Text.quoted text
  | .table _ => "map"

def misread {α : Type} (tree : Tree) (wanted : String) : Except Misfit α :=
  .error (.reading (found tree) wanted [])

def misfit {α : Type} (tree : Tree) (wanted : String) : Except Misfit α :=
  .error (.other ("invalid type: " ++ found tree ++ ", expected " ++ wanted))

/-- The type with sixty-four bits in which a number is read before it is narrowed. -/
def wideType (type : WholeType) : WholeType :=
  { type with size := .bits64 }

def wideName (type : WholeType) (n : Int) : String :=
  (if type.signed then "64-bit integer \x60" else "64-bit unsigned integer \x60") ++
    toString n ++ "\x60"

def narrowName (type : WholeType) : String :=
  "an " ++ (if type.signed then "signed " else "unsigned ") ++ toString type.size.width ++
    " bit integer"

/-- The number with sixty-four bits that a tree denotes. -/
def readWide (type : WholeType) (tree : Tree) : Except Misfit Int :=
  match tree with
  | .table _ => misread tree "an integer"
  | .leaf text =>
    match numberWord? text with
    | some truth => .ok (if truth then 1 else 0)
    | none =>
      match (wideType type).read text.toList with
      | .ok n => .ok n.1
      | .error _ => misread tree "an integer"

def readWhole (type : WholeType) (tree : Tree) : Except Misfit Int := do
  let n ← readWide type tree
  if type.lower ≤ n ∧ n ≤ type.upper then pure n
  else throw (.reading (wideName type n) (narrowName type) [])

def readFloating (tree : Tree) : Except Misfit Numeral.Float64Bits :=
  match tree with
  | .table _ => misread tree "a floating point"
  | .leaf text =>
    match numberWord? text with
    | some truth => .ok (Numeral.Floating.ofDecimal false (if truth then 1 else 0) 0)
    | none =>
      match (Numeral.readFloating text.toList : Except _ Numeral.Float64Bits) with
      | .ok x => .ok x
      | .error _ => misread tree "a floating point"

/-- The truth value that a tree denotes. A misfit shows the text in lower case. -/
def readTruth (tree : Tree) : Except Misfit Bool :=
  match tree with
  | .table _ => misread tree "a boolean"
  | .leaf text =>
    let word := Text.lower text
    if word = "1" then .ok true
    else if word = "0" then .ok false
    else
      match numberWord? text with
      | some truth => .ok truth
      | none => misread (.leaf word) "a boolean"

def readText (tree : Tree) : Except Misfit String :=
  match tree with
  | .table _ => misread tree "a string"
  | .leaf text => .ok text

def readChar (tree : Tree) : Except Misfit Char :=
  match tree with
  | .table _ => misfit tree "a character"
  | .leaf text =>
    match text.toList with
    | [c] => .ok c
    | _ => .error (.other ("invalid value: " ++ found tree ++ ", expected a character"))

def listed (names : List String) : String :=
  let marked := names.map fun name => "\x60" ++ name ++ "\x60"
  match marked with
  | [] => "there are no fields"
  | [one] => "expected " ++ one
  | [one, two] => "expected " ++ one ++ " or " ++ two
  | many => "expected one of " ++ ", ".intercalate many

/-- The first name that a closed record does not know. -/
def unknownName? (names : List String) (entries : List (String × Tree)) : Option String :=
  (entries.map Prod.fst).find? fun name => !names.contains name

/-- The chosen variant of a choice and the tree of its content. Names are compared in lower
case. -/
def chosen (name : String) (names : List String) (tree : Tree) :
    Except Misfit (String × Option Tree) := do
  let (variant, content) ←
    match tree with
    | .leaf text => pure (text, none)
    | .table [(variant, content)] => pure (variant, some content)
    | .table _ =>
      throw (.other ("value of enum " ++ name ++
        " should be represented by either string or table with exactly one key"))
  match names.find? fun known => Text.lower known = Text.lower variant with
  | some known => pure (known, content)
  | none =>
    throw (.other ("enum " ++ name ++ " does not have variant constructor " ++ variant))

/-! ## Reading shapes -/

mutual

/-- Reads a tree as a shape. -/
def read (shape : Shape) (tree : Tree) : Except Misfit Bound :=
  match shape with
  | .tree => .ok (.tree tree)
  | .text => (readText tree).map .text
  | .whole type => (readWhole type tree).map .whole
  | .binary32 => (readFloating tree).map fun x => .binary32 x.convert
  | .binary64 => (readFloating tree).map .binary64
  | .truth => (readTruth tree).map .truth
  | .char => (readChar tree).map .char
  | .list => misfit tree "a sequence"
  | .mapping content =>
    match tree with
    | .leaf _ => misfit tree "a map"
    | .table entries =>
      (entries.mapM fun entry =>
        ((read content entry.2).mapError (Misfit.below entry.1)).map (entry.1, ·)).map .record
  | .record description closed fields =>
    match tree with
    | .leaf _ => misfit tree description
    | .table entries => do
      let found ← readPresent fields entries
      let names := fields.map fun field => field.1
      if closed then
        match unknownName? names entries with
        | some name =>
          throw (.other ("unknown field \x60" ++ name ++ "\x60, " ++ listed names))
        | none => pure ()
      (fillFields fields found).map .record
  | .choice name variants => do
    let (variant, content) ← chosen name (variants.map fun variant => variant.1) tree
    readVariant variants variant content

/-- Reads the fields of a record that are present. -/
def readPresent (fields : List (String × Presence × Shape)) (entries : List (String × Tree)) :
    Except Misfit (List (String × Bound)) :=
  match fields with
  | [] => .ok []
  | field :: rest => do
    let found ← readField field entries
    let others ← readPresent rest entries
    pure (found ++ others)

def readField (field : String × Presence × Shape) (entries : List (String × Tree)) :
    Except Misfit (List (String × Bound)) :=
  match field with
  | (name, content) => readContent name content entries

def readContent (name : String) (content : Presence × Shape)
    (entries : List (String × Tree)) : Except Misfit (List (String × Bound)) :=
  match content with
  | (_, shape) =>
    match Entries.find? name entries with
    | none => .ok []
    | some tree => do
      let bound ← (read shape tree).mapError (Misfit.below name)
      pure [(name, bound)]

def readVariant (variants : List (String × Option Shape)) (variant : String)
    (content : Option Tree) : Except Misfit Bound :=
  match variants with
  | [] => .ok (.choice variant)
  | known :: rest =>
    match readKnown known variant content with
    | some result => result
    | none => readVariant rest variant content

/-- Reads the content of a variant, if it is the chosen one. -/
def readKnown (known : String × Option Shape) (variant : String) (content : Option Tree) :
    Option (Except Misfit Bound) :=
  match known with
  | (name, shape) => if name = variant then some (readOptional name shape content) else none

/-- Reads a content of an optional shape. Without a shape any content is passed over. -/
def readOptional (variant : String) (shape : Option Shape) (content : Option Tree) :
    Except Misfit Bound :=
  match shape, content with
  | some shape, some tree => (read shape tree).map (.choiceOf variant)
  | _, _ => .ok (.choice variant)

/-- Completes the fields that were found by the ones that may be missing. -/
def fillFields (fields : List (String × Presence × Shape)) (found : List (String × Bound)) :
    Except Misfit (List (String × Bound)) :=
  match fields with
  | [] => .ok []
  | (name, presence, _) :: rest => do
    let value ←
      match Entries.find? name found, presence with
      | some value, _ => pure value
      | none, .required => throw (Misfit.other ("missing field \x60" ++ name ++ "\x60"))
      | none, .optional => pure Bound.absent
      | none, .default value => pure value
    let others ← fillFields rest found
    pure ((name, value) :: others)

end

end Binding

/-- Binds the merged tree of a configuration to a shape. -/
def Config.bind (config : Config) (enumeration : Enumeration) (world : World) (shape : Shape) :
    Except Failure Bound :=
  (Binding.read shape (config.tree enumeration world)).mapError fun misfit =>
    .bind ("Failed to deserialize configuration: " ++ misfit.message)

end LayeredConfig
