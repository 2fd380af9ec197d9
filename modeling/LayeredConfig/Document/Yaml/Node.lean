import LayeredConfig.Document.Yaml.Scalar
import LayeredConfig.Document.Yaml.Token
import LayeredConfig.NameMap

/-!
The tokens of a document make a tree of nodes. A list in block style may stand at the column
of the key that it belongs to, and a key or a value that is left out is absent. Keys are texts
or whole numbers, and no key of a table may be repeated.
-/

namespace LayeredConfig.Document.Yaml

inductive Key where
  | text (text : String)
  | whole (value : Int)
  deriving DecidableEq, Repr

def Key.name : Key → String
  | .text name => name
  | .whole n => toString n

/-- A table as far as it is read: the finished entries, the last one first, and a key that
waits for its value. -/
structure TableDraft where
  entries : List (Key × Value)
  waiting : Option Key

namespace TableDraft

def empty : TableDraft :=
  ⟨[], none⟩

/-- Adds a node as a key or as the value of the key that waits. A node without value is no
key, and what follows takes its place. -/
def add (draft : TableDraft) (node : Node) : Option TableDraft :=
  match draft.waiting with
  | some key =>
    if draft.entries.any fun entry => entry.1 = key then none
    else some ⟨(key, node.toValue) :: draft.entries, none⟩
  | none =>
    match node with
    | .refused => some draft
    | .value (.text name) => some { draft with waiting := some (.text name) }
    | .value (.whole n) => some { draft with waiting := some (.whole n) }
    | .value _ => none

def toNode (draft : TableDraft) : Node :=
  .value <| .table <|
    draft.entries.foldr (fun entry entries => Entries.insert entry.1.name entry.2 entries) []

end TableDraft

/-- What is known while nodes are read: what the handles of tags stand for, which number the
name of an anchor has, and the nodes of the numbers that are finished. -/
structure Scope where
  handles : List (String × String)
  anchors : List (String × Nat)
  nodes : List (Nat × Node)
  count : Nat

namespace Scope

/-- The scope of a document without directives. -/
def empty : Scope :=
  ⟨[], [], [], 0⟩

/-- The scope with a new number for a name. -/
def declare (scope : Scope) (name : String) : Scope :=
  { scope with
    anchors := Entries.insert name scope.count scope.anchors
    count := scope.count + 1 }

/-- The scope in which the number of an anchor has its node. -/
def define (scope : Scope) (anchor : Option Nat) (node : Node) : Scope :=
  match anchor with
  | some number => { scope with nodes := (number, node) :: scope.nodes }
  | none => scope

/-- The node that an alias repeats. Inside of its own node an anchor has no value. -/
def node? (scope : Scope) (name : String) : Option Node :=
  (Entries.find? name scope.anchors).map fun number =>
    (scope.nodes.lookup number).getD .refused

/-- The family and the suffix of a tag. A handle with a mark at both ends has to be declared,
apart from the one without a name between them. -/
def expand (scope : Scope) (handle suffix : String) : Option (String × String) :=
  match Entries.find? handle scope.handles with
  | some expansion => some (expansion, suffix)
  | none =>
    if handle = "!!" then some (coreFamily, suffix)
    else if 2 ≤ handle.length then none
    else some (handle, suffix)

end Scope

/-! ## Nodes -/

/-- The anchor and the tag of a node. -/
structure Properties where
  anchor : Option Nat
  tag : Option (String × String)

/-- The properties in front of a node, in either order, and what follows them. -/
def readProperties (scope : Scope) :
    List Token → Option (Properties × Scope × List Token)
  | .anchor name :: .tag handle suffix :: rest => do
    let tag ← scope.expand handle suffix
    return (⟨some scope.count, some tag⟩, scope.declare name, rest)
  | .tag handle suffix :: .anchor name :: rest => do
    let tag ← scope.expand handle suffix
    return (⟨some scope.count, some tag⟩, scope.declare name, rest)
  | .anchor name :: rest => some (⟨some scope.count, none⟩, scope.declare name, rest)
  | .tag handle suffix :: rest => do
    return (⟨none, some (← scope.expand handle suffix)⟩, scope, rest)
  | tokens => some (⟨none, none⟩, scope, tokens)

/-- The node of a list. -/
def listNode (items : List Node) : Node :=
  .value (.list (items.map Node.toValue))

/-- Whether an item of a block sequence is left out. -/
def endsItem : List Token → Bool
  | [] => true
  | token :: _ => token == .item || token == .blockEnd

/-- Whether an item of a sequence at the column of its key is left out. -/
def endsFlushItem : List Token → Bool
  | [] => true
  | token :: _ => token == .item || token == .key || token == .value || token == .blockEnd

/-- Whether a key or a value of a block mapping is left out. -/
def endsBlockEntry : List Token → Bool
  | [] => true
  | token :: _ => token == .key || token == .value || token == .blockEnd

/-- Whether a value of a flow collection is left out. -/
def endsFlowEntry : List Token → Bool
  | [] => true
  | token :: _ =>
    token == .separator || token == .flowSequenceEnd || token == .flowMappingEnd

/-- A node that is left out. -/
def absentNode : Node :=
  .value .absent

mutual

/-- The node at the start of the tokens, with what is known after it and what follows it.
`block` admits block collections, `flush` also a sequence at the column of its key. The number
of steps is bounded by `fuel`. -/
def readNode (block flush : Bool) :
    Nat → Scope → List Token → Option (Node × Scope × List Token)
  | 0, _, _ => none
  | _, scope, .alias name :: rest => (scope.node? name).map (·, scope, rest)
  | fuel + 1, scope, tokens => do
    let (properties, scope, tokens) ← readProperties scope tokens
    let (node, scope, rest) ←
      match tokens with
      | .plain text :: rest => (resolvePlain properties.tag text).map (·, scope, rest)
      | .quoted text :: rest => some (.value (.text text), scope, rest)
      | .flowSequence :: rest => readFlowItems fuel true [] scope rest
      | .flowMapping :: rest => readFlowEntries fuel true .empty scope rest
      | tokens =>
        if flush && tokens.head? == some .item then readFlushItems fuel [] scope tokens
        else if block && tokens.head? == some .blockSequence then
          readItems fuel [] scope tokens.tail
        else if block && tokens.head? == some .blockMapping then
          readEntries fuel .empty scope tokens.tail
        else if properties.anchor.isSome || properties.tag.isSome then
          (resolvePlain properties.tag "").map (·, scope, tokens)
        else none
    return (node, scope.define properties.anchor node, rest)

/-- The items of a block sequence, of which those in `done` are read, the last first. -/
def readItems : Nat → List Node → Scope → List Token → Option (Node × Scope × List Token)
  | 0, _, _, _ => none
  | _, done, scope, .blockEnd :: rest => some (listNode done.reverse, scope, rest)
  | fuel + 1, done, scope, .item :: rest =>
    if endsItem rest then readItems fuel (absentNode :: done) scope rest
    else do
      let (node, scope, rest) ← readNode true false fuel scope rest
      readItems fuel (node :: done) scope rest
  | _, _, _, _ => none

/-- The items of a sequence at the column of its key. -/
def readFlushItems :
    Nat → List Node → Scope → List Token → Option (Node × Scope × List Token)
  | 0, _, _, _ => none
  | fuel + 1, done, scope, .item :: rest =>
    if endsFlushItem rest then readFlushItems fuel (absentNode :: done) scope rest
    else do
      let (node, scope, rest) ← readNode true false fuel scope rest
      readFlushItems fuel (node :: done) scope rest
  | _, done, scope, rest => some (listNode done.reverse, scope, rest)

/-- The entries of a block mapping, of which those in the draft are read. -/
def readEntries :
    Nat → TableDraft → Scope → List Token → Option (Node × Scope × List Token)
  | 0, _, _, _ => none
  | _, draft, scope, .blockEnd :: rest => some (draft.toNode, scope, rest)
  | fuel + 1, draft, scope, .key :: rest => do
    let (key, scope, rest) ←
      if endsBlockEntry rest then some (absentNode, scope, rest)
      else readNode true true fuel scope rest
    let draft ← draft.add key
    let (value, scope, rest) ←
      match rest with
      | .value :: rest =>
        if endsBlockEntry rest then some (absentNode, scope, rest)
        else readNode true true fuel scope rest
      | rest => some (absentNode, scope, rest)
    readEntries fuel (← draft.add value) scope rest
  | _, _, _, _ => none

/-- The items of a flow sequence. A pair in it is a table of one entry. -/
def readFlowItems :
    Nat → Bool → List Node → Scope → List Token → Option (Node × Scope × List Token)
  | 0, _, _, _, _ => none
  | _, _, done, scope, .flowSequenceEnd :: rest => some (listNode done.reverse, scope, rest)
  | fuel + 1, true, done, scope, .key :: rest => do
    if endsFlowEntry rest then none
    let (key, scope, rest) ← readNode false false fuel scope rest
    let draft ← TableDraft.empty.add key
    let (value, scope, rest) ← readFlowValue fuel scope rest
    readFlowItems fuel false ((← draft.add value).toNode :: done) scope rest
  | fuel + 1, true, done, scope, tokens => do
    let (node, scope, rest) ← readNode false false fuel scope tokens
    readFlowItems fuel false (node :: done) scope rest
  | fuel + 1, false, done, scope, .separator :: rest =>
    readFlowItems fuel true done scope rest
  | _, false, _, _, _ => none

/-- The entries of a flow mapping. A node without colon is a key without value. -/
def readFlowEntries :
    Nat → Bool → TableDraft → Scope → List Token → Option (Node × Scope × List Token)
  | 0, _, _, _, _ => none
  | _, _, draft, scope, .flowMappingEnd :: rest => some (draft.toNode, scope, rest)
  | fuel + 1, true, draft, scope, .key :: rest => do
    if endsFlowEntry rest then none
    let (key, scope, rest) ← readNode false false fuel scope rest
    let (value, scope, rest) ← readFlowValue fuel scope rest
    readFlowEntries fuel false (← (← draft.add key).add value) scope rest
  | fuel + 1, true, draft, scope, tokens => do
    let (key, scope, rest) ← readNode false false fuel scope tokens
    readFlowEntries fuel false (← (← draft.add key).add absentNode) scope rest
  | fuel + 1, false, draft, scope, .separator :: rest =>
    readFlowEntries fuel true draft scope rest
  | _, false, _, _, _ => none

/-- The value after a key in a flow collection. -/
def readFlowValue : Nat → Scope → List Token → Option (Node × Scope × List Token)
  | 0, _, _ => none
  | fuel + 1, scope, .value :: rest =>
    if endsFlowEntry rest then some (absentNode, scope, rest)
    else readNode false false fuel scope rest
  | _, scope, rest => some (absentNode, scope, rest)

end

def Token.isBetween : Token → Bool
  | .documentStart => true
  | .documentEnd => true
  | .version => true
  | .handle _ _ => true
  | _ => false

/-- The scope that the directives in front of a document give, and what follows them. The
version is given at most once, and of the handles the last directive counts. -/
def readDirectives (versioned : Bool) (scope : Scope) :
    List Token → Option (Scope × List Token)
  | .version :: rest => if versioned then none else readDirectives true .empty rest
  | .handle name expansion :: rest =>
    readDirectives versioned { Scope.empty with handles := [(name, expansion)] } rest
  | tokens => some (scope, tokens)

/-- The value of the only document of the tokens. Without document it is an empty table. -/
def readDocument (tokens : List Token) : Option Value := do
  match tokens.dropWhile (· == .documentEnd) with
  | [] => return .table []
  | first :: rest =>
    let (scope, content) ←
      if first.isBetween then do
        let (scope, rest) ← readDirectives false .empty (first :: rest)
        if rest.head? = some .documentStart then some (scope, rest.tail) else none
      else some (Scope.empty, first :: rest)
    if content.head?.all Token.isBetween then none
    let (node, _, rest) ← readNode true false (3 * tokens.length + 3) scope content
    if rest.all (· == .documentEnd) then return node.toValue else none

end LayeredConfig.Document.Yaml
