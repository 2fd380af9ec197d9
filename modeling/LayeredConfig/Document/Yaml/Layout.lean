import LayeredConfig.Document.Yaml.BlockText
import LayeredConfig.Document.Yaml.FlowText
import LayeredConfig.Document.Yaml.Property

/-!
The tokens of a text depend on its layout. A line that is indented further than the collection
it stands in opens a new one, and a line that is indented less closes collections. That a node
is a key shows only at the colon after it, so the place of a possible key is kept until the
colon comes or can come no more.
-/

namespace LayeredConfig.Document.Yaml

/-- A node that is a key if a colon follows. A required key has to become one. `index` is the
number of tokens in front of it. -/
structure PossibleKey where
  index : Nat
  line : Nat
  column : Nat
  required : Bool
  deriving Repr

/-- An open flow collection, with the possible key that stands in front of it. -/
structure OpenFlow where
  isSequence : Bool
  outerKey : Option PossibleKey
  deriving Repr

/-- The tokens of a text up to a place. `blocks` has the columns of the open block collections
and `flows` the open flow collections, the innermost first. With a `margin`, what follows has
to stand right of the innermost block collection. A colon right after a flow collection or a
quoted text, at the place `adjacent`, needs no gap behind it. -/
structure Layout where
  place : Cursor
  tokens : Array Token
  blocks : List Nat
  margin : Bool
  flows : List OpenFlow
  key : Option PossibleKey
  keyAllowed : Bool
  adjacent : Option (Nat × Nat)

namespace Layout

def start (text : List Char) : Layout where
  place := .start text
  tokens := #[]
  blocks := []
  margin := false
  flows := []
  key := none
  keyAllowed := true
  adjacent := none

def inFlow (layout : Layout) : Bool :=
  !layout.flows.isEmpty

/-- The least column at which a node may stand. -/
def indent (layout : Layout) : Int :=
  match layout.blocks with
  | [] => -1
  | column :: _ => if layout.margin then column + 1 else column

def push (layout : Layout) (token : Token) (place : Cursor) : Layout :=
  { layout with tokens := layout.tokens.push token, place }

/-- Closes the block collections that stand right of a column. -/
def closeBlocks (layout : Layout) (column : Int) : Layout :=
  if layout.inFlow then layout
  else
    let closed := layout.blocks.takeWhile fun (block : Nat) => column < block
    { layout with
      margin := layout.margin && !(column < layout.indent)
      blocks := layout.blocks.drop closed.length
      tokens := layout.tokens ++ Array.replicate closed.length .blockEnd }

/-- Opens a block collection at a column, unless it is open already. Its token is put in front
of the token with the given number. -/
def openBlock (layout : Layout) (column index : Nat) (token : Token) : Layout :=
  if layout.inFlow then layout
  else
    let layout :=
      if layout.indent ≤ column then { layout with margin := false } else layout
    if layout.indent < column then
      { layout with
        blocks := column :: layout.blocks
        tokens := layout.tokens.insertIdxIfInBounds index token }
    else layout

/-- Demands that what follows stands right of the innermost block collection. -/
def addMargin (layout : Layout) : Layout :=
  if layout.inFlow || layout.blocks.isEmpty then layout else { layout with margin := true }

/-- Notes that the next token may belong to a key. -/
def saveKey (layout : Layout) : Layout :=
  if layout.keyAllowed then
    let place := layout.place
    let required :=
      !layout.inFlow && !layout.margin && layout.blocks.head? == some place.column
    { layout with key := some ⟨layout.tokens.size, place.line, place.column, required⟩ }
  else layout

/-- Gives up the possible key, which must not be a required one. -/
def dropKey (layout : Layout) : Option Layout :=
  if layout.key.any (·.required) then none else some { layout with key := none }

/-- The greatest distance of a colon from the start of its key. -/
def greatestKeyLength : Nat := 1024

/-- Gives up the possible key if its colon is out of reach. Outside of flow collections a key
is on the line of its colon. -/
def dropStaleKey (layout : Layout) : Option Layout :=
  let isStale (key : PossibleKey) :=
    key.line < layout.place.line || key.column + greatestKeyLength < layout.place.column
  if !layout.inFlow && layout.key.any isStale then layout.dropKey else some layout

/-- The place after blanks, comments and line breaks. A line break allows for a key outside of
flow collections. A tab does not indent, so in front of the indentation it may only stand on an
empty line. -/
def skipGap : Nat → Layout → Option Layout
  | 0, layout => some layout
  | fuel + 1, layout =>
    let place := layout.place
    match place.rest with
    | [] => some layout
    | c :: _ =>
      let indents := place.fresh && !layout.blocks.isEmpty && place.column < layout.indent
      if c = '\t' ∧ indents then do skipGap fuel { layout with place := ← place.endLine }
      else if isBlank c then skipGap fuel { layout with place := place.advance }
      else if c = '\n' then
        skipGap fuel
          { layout with
            place := place.advance
            keyAllowed := layout.keyAllowed || !layout.inFlow }
      else if c = '#' then skipGap fuel { layout with place := place.skipWhile (· != '\n') }
      else some layout

/-- The place after spaces, comments and line breaks, of which at least one has to be there.
No tab may follow. -/
def skipSpaces : Nat → Bool → Cursor → Option Cursor
  | 0, _, _ => none
  | fuel + 1, found, place =>
    match place.rest with
    | ' ' :: _ => skipSpaces fuel true place.advance
    | '\n' :: _ => skipSpaces fuel true place.advance
    | '#' :: _ => skipSpaces fuel found (place.skipWhile (· != '\n'))
    | '\t' :: _ => none
    | _ => if found then some place else none

/-- A mark between documents. Nothing may follow the mark of an end on its line. -/
def documentMark (layout : Layout) (token : Token) : Option Layout := do
  let layout ← (layout.closeBlocks (-1)).dropKey
  let after := layout.place.advanceBy 3
  let place ← if token = .documentEnd then after.endLine else some after
  return { layout with keyAllowed := false }.push token place

def directive (layout : Layout) : Option Layout := do
  let layout ← (layout.closeBlocks (-1)).dropKey
  let (token, place) ← readDirective layout.place
  return { layout with keyAllowed := false }.push token place

/-- The greatest depth of nested flow collections. -/
def greatestFlowDepth : Nat := 255

/-- The start of a flow collection, which may be a key. -/
def openFlow (layout : Layout) (isSequence : Bool) (token : Token) : Option Layout := do
  if greatestFlowDepth ≤ layout.flows.length then none
  let layout := layout.saveKey.addMargin
  let (_, place) ← layout.place.advance.skipInline
  return { layout with
    flows := ⟨isSequence, layout.key⟩ :: layout.flows
    key := none
    keyAllowed := true }.push token place

def closeFlow (layout : Layout) (token : Token) : Option Layout := do
  let layout ← layout.dropKey
  match layout.flows with
  | [] => none
  | flow :: flows =>
    let (_, place) ← layout.place.advance.skipInline
    return { layout with
      flows
      key := flow.outerKey
      keyAllowed := false
      adjacent := some (place.line, place.column) }.push token place

def separator (layout : Layout) : Option Layout := do
  let layout ← layout.dropKey
  let (_, place) ← layout.place.advance.skipInline
  return { layout with keyAllowed := true }.push .separator place

def item (layout : Layout) : Option Layout := do
  if layout.inFlow || !layout.keyAllowed then none
  let layout := layout.openBlock layout.place.column layout.tokens.size .blockSequence
  let (blanks, place) ← layout.place.advance.skipInline
  match place.rest with
  | '-' :: rest => if blanks.contains '\t' && startsGap rest then none
  | _ => pure ()
  let aside := place.rest.head?.any fun c => c == '\n' || isFlowIndicator c
  let layout := if aside then layout.addMargin else layout
  return { ← layout.dropKey with keyAllowed := true }.push .item place

def explicitKey (layout : Layout) : Option Layout := do
  if !layout.inFlow && !layout.keyAllowed then none
  let layout := layout.openBlock layout.place.column layout.tokens.size .blockMapping
  let place := layout.place.advance
  let place ← skipSpaces (place.rest.length + 1) false place
  return { ← layout.dropKey with keyAllowed := !layout.inFlow }.push .key place

/-- The place after a colon. A tab that follows needs a space beside it if a word comes
next. -/
def afterColon (place : Cursor) : Option Cursor := do
  let after := place.advance
  match after.rest with
  | '\t' :: _ =>
    let (blanks, next) ← after.skipInline
    if !blanks.contains ' ' && next.rest.head?.any isWordChar then none
    return next
  | _ => return after

/-- The colon in front of a value. If a possible key is there, the key is marked and may open
a block mapping. In a flow sequence a key is on the line of its colon. -/
def value (layout : Layout) : Option Layout := do
  let place ← afterColon layout.place
  match layout.key with
  | some key =>
    let isPair := layout.flows.head?.any (·.isSequence)
    if isPair && key.line < layout.place.line then none
    let layout :=
      { layout with tokens := layout.tokens.insertIdxIfInBounds key.index .key }
    let layout := (layout.openBlock key.column key.index .blockMapping).addMargin
    return { layout with key := none, keyAllowed := false }.push .value place
  | none =>
    if !layout.inFlow && !layout.keyAllowed then none
    let layout := layout.openBlock layout.place.column layout.tokens.size .blockMapping
    let layout := layout.addMargin
    return { layout with keyAllowed := !layout.inFlow }.push .value place

def named (layout : Layout) (token : String → Token) : Option Layout := do
  let layout := { layout.saveKey with keyAllowed := false }
  let (name, place) ← readAnchorName layout.place
  return layout.push (token name) place

def tag (layout : Layout) : Option Layout := do
  let layout := { layout.saveKey with keyAllowed := false }
  let (token, place) ← readTag layout.place
  if startsGap place.rest || (layout.inFlow && startsFlowIndicator place.rest) then
    return layout.push token place
  else none

def blockText (layout : Layout) (literal : Bool) : Option Layout := do
  let layout := { layout.saveKey with keyAllowed := true, margin := false }
  let (text, place) ← readBlockText literal layout.indent layout.place
  return layout.push (.quoted (String.ofList text)) place

def quotedText (layout : Layout) (mark : Mark) : Option Layout := do
  let layout := { layout.saveKey with keyAllowed := false }
  let (text, place) ← readQuoted mark layout.inFlow layout.indent layout.place
  let layout ← skipGap (place.rest.length + 1) { layout with place }
  let adjacent := some (layout.place.line, layout.place.column)
  return { layout with adjacent }.push (.quoted (String.ofList text)) layout.place

/-- A plain text. If it ends with a line, a key may follow. -/
def plainText (layout : Layout) : Option Layout := do
  let layout := { layout.saveKey with keyAllowed := false, margin := false }
  let indent := layout.indent + 1
  if layout.inFlow ∧ (layout.place.column : Int) < indent then none
  let fuel := 2 * layout.place.rest.length + 2
  let (text, place) ← readPlain layout.inFlow indent fuel .empty layout.place
  if text.isEmpty then none
  return { layout with keyAllowed := place.fresh }.push (.plain (String.ofList text)) place

/-! ## All tokens -/

def node (layout : Layout) : Option Layout :=
  match layout.place.rest with
  | [] => none
  | c :: rest =>
    match c with
    | '[' => layout.openFlow true .flowSequence
    | '\x7b' => layout.openFlow false .flowMapping
    | ']' => layout.closeFlow .flowSequenceEnd
    | '\x7d' => layout.closeFlow .flowMappingEnd
    | ',' => layout.separator
    | '*' => layout.named .alias
    | '&' => layout.named .anchor
    | '!' => layout.tag
    | '\'' => layout.quotedText .single
    | '"' => layout.quotedText .double
    | '%' => none
    | '@' => none
    | '\x60' => none
    | '|' => if layout.inFlow then layout.plainText else layout.blockText true
    | '>' => if layout.inFlow then layout.plainText else layout.blockText false
    | '-' => if startsGap rest then layout.item else layout.plainText
    | '?' => if startsGap rest then layout.explicitKey else layout.plainText
    | ':' =>
      let isAdjacent := layout.adjacent == some (layout.place.line, layout.place.column)
      if startsGap rest || (layout.inFlow && (startsFlowIndicator rest || isAdjacent)) then
        layout.value
      else layout.plainText
    | _ => layout.plainText

def step (layout : Layout) : Option Layout :=
  let place := layout.place
  if place.column = 0 ∧ place.rest.head? = some '%' then layout.directive
  else if place.column = 0 ∧ startsTriple '-' place.rest then
    layout.documentMark .documentStart
  else if place.column = 0 ∧ startsTriple '.' place.rest then layout.documentMark .documentEnd
  else if (place.column : Int) < layout.indent then none
  else layout.node

/-- The tokens up to the end of the text. The number of tokens to come is bounded by `fuel`. -/
def finish : Nat → Layout → Option (List Token)
  | 0, _ => none
  | fuel + 1, layout => do
    let layout ← skipGap (layout.place.rest.length + 1) layout
    let layout := (← layout.dropStaleKey).closeBlocks layout.place.column
    if layout.place.rest.isEmpty then
      return (← layout.dropKey).closeBlocks (-1) |>.tokens.toList
    finish fuel (← layout.step)

end Layout

/-- Text with line feeds for line breaks, up to the first character that is null. -/
def normalize : List Char → List Char
  | [] => []
  | '\r' :: '\n' :: rest => '\n' :: normalize rest
  | '\r' :: rest => '\n' :: normalize rest
  | c :: rest => if c = '\x00' then [] else c :: normalize rest

def tokens? (content : String) : Option (List Token) :=
  let text := normalize content.toList
  Layout.finish (text.length + 2) (.start text)

end LayeredConfig.Document.Yaml
