import DataSchema.Document.Layout
import DataSchema.Document.Node

set_option autoImplicit false

/-!
# The tree of a document

From the tokens of a document to its nodes. Collections that are given by layout and those in
brackets can be nested, except that layout has no meaning between brackets. A node can be marked
with an anchor, and an alias stands for the node that is marked so.

## Main definitions

* `DataSchema.TreeState` — the tokens that are left, and what is declared.
* `DataSchema.TokenList.toTree?` — the node of a document; none if there is no document.
-/

namespace DataSchema

/-- The tokens that are left, and what is declared. -/
structure TreeState where
  /-- The tokens that are left. -/
  tokens : List Token
  /-- The fault behind them. -/
  fault : DocumentFault
  /-- What the handles of tags stand for. -/
  handles : List (String × String)
  /-- The anchored nodes; a node that is not complete is missing. -/
  anchors : List (String × Option DocumentNode)

/-- Reading a tree. -/
abbrev TreeReader := StateT TreeState (Except DocumentFault)

/-- Where a node stands. -/
inductive NodePlace
  /-- Between brackets. -/
  | flow
  /-- In a block sequence, or at the top. -/
  | block
  /-- In a block mapping, where a sequence need not be indented. -/
  | entry
  deriving DecidableEq

namespace TreeReader

/-- Fails with a flaw. -/
def fail {α : Type} (flaw : DocumentFlaw) : TreeReader α := throw (.malformed flaw)

/-- The next token. -/
def peek : TreeReader Token := do
  let s ← get
  match s.tokens with
  | t :: _ => return t
  | [] => throw s.fault

/-- Passes a token. -/
def advance : TreeReader Unit := modify fun s => { s with tokens := s.tokens.drop 1 }

/-- Passes a token if it is the given one, and tells whether it was. -/
def accept (t : Token) : TreeReader Bool := do
  if (← peek) = t then
    advance
    return true
  else return false

/-- Passes the given token, which has to come next. -/
def expect (t : Token) : TreeReader Unit := do
  if !(← accept t) then fail .unexpectedToken

/-! ## Properties of nodes -/

/-- The properties of a node. -/
structure Properties where
  /-- The name of its anchor. -/
  anchor : Option String
  /-- The name of its tag. -/
  tag : Option String

/-- A tag that leaves the kind of value open. -/
def openTag : String := "!"

namespace Properties

/-- Whether a node has properties at all. -/
def isPresent (p : Properties) : Bool := p.anchor.isSome || p.tag.isSome

/-- The tag of a collection, given the one that its form suggests. -/
def collectionTag (p : Properties) (suggested : Tag) : Tag :=
  match p.tag with
  | none => suggested
  | some name => if name = openTag then suggested else .ofName name

/-- The node of a text. -/
def scalar (p : Properties) (text : String) (plain : Bool) : DocumentNode :=
  match p.tag with
  | none => .scalar (if plain then .ofPlain text else .str) text
  | some name => .scalar (if name = openTag then .ofPlain text else .ofName name) text

end Properties

/-- An anchor, if one comes next. -/
def readAnchor : TreeReader (Option String) := do
  match ← peek with
  | .anchor name =>
    advance
    return some name
  | _ => return none

/-- The name of a tag, if one comes next, with its handle not yet resolved. -/
def readTag : TreeReader (Option (Option String × String)) := do
  match ← peek with
  | .tag handle suffix =>
    advance
    return some (handle, suffix)
  | _ => return none

/-- The full name of a tag. -/
def resolveTag : Option String × String → TreeReader String
  | (none, suffix) => return suffix
  | (some handle, suffix) => do
    match (← get).handles.lookup handle with
    | some expansion => return expansion ++ suffix
    | none => fail .unknownHandle

/-- The properties of a node: an anchor and a tag, in either order. -/
def readProperties : TreeReader Properties := do
  let first ← readAnchor
  let tag ← readTag
  let anchor ← if first.isNone && tag.isSome then readAnchor else pure first
  match tag with
  | none => return ⟨anchor, none⟩
  | some t => return ⟨anchor, some (← resolveTag t)⟩

/-- Declares an anchor whose node is not complete. -/
def openAnchor : Option String → TreeReader Unit
  | none => return ()
  | some name => do
    if ((← get).anchors.lookup name).isSome then fail .repeatedAnchor
    modify fun s => { s with anchors := (name, none) :: s.anchors }

/-- Completes the node of an anchor. -/
def closeAnchor (anchor : Option String) (node : DocumentNode) : TreeReader Unit :=
  match anchor with
  | none => return ()
  | some name => modify fun s => { s with anchors := (name, some node) :: s.anchors }

/-- The node that an alias stands for. -/
def resolveAlias (name : String) : TreeReader DocumentNode := do
  match (← get).anchors.lookup name with
  | some (some node) => return node
  | some none => fail .cyclicNode
  | none => fail .unknownAlias

/-! ## Nodes -/

/-- A node, unless one of the given tokens comes next: then the node is not written down. -/
def unlessAt (stops : List Token) (read : TreeReader DocumentNode) : TreeReader DocumentNode := do
  if stops.contains (← peek) then return .empty else read

/-- The value after a key, if there is one. -/
def readValue (stops : List Token) (read : TreeReader DocumentNode) : TreeReader DocumentNode := do
  if ← accept .value then unlessAt stops read else return .empty

mutual

/-- A node. -/
def readNode (place : NodePlace) : Nat → TreeReader DocumentNode
  | 0 => fail .unexpectedToken
  | fuel + 1 => do
    match ← peek with
    | .alias name =>
      advance
      resolveAlias name
    | _ =>
      let properties ← readProperties
      openAnchor properties.anchor
      let node ← readContent place properties fuel
      closeAnchor properties.anchor node
      return node

/-- What a node consists of, after its properties. -/
def readContent (place : NodePlace) (p : Properties) : Nat → TreeReader DocumentNode
  | 0 => fail .unexpectedToken
  | fuel + 1 => do
    let sequence (items : List DocumentNode) : DocumentNode :=
      .sequence (p.collectionTag .sequence) items
    let mapping (pairs : List (DocumentNode × DocumentNode)) : DocumentNode :=
      .ofPairs (p.collectionTag .mapping) pairs
    match ← peek, place with
    | .blockEntry, .entry => return sequence (← readLooseItems fuel)
    | .scalar text plain, _ =>
      advance
      return p.scalar text plain
    | .flowSequenceStart, _ =>
      advance
      return sequence (← readFlowItems true fuel)
    | .flowMappingStart, _ =>
      advance
      return mapping (← readFlowPairs true fuel)
    | .blockSequenceStart, .block | .blockSequenceStart, .entry =>
      advance
      return sequence (← readBlockItems fuel)
    | .blockMappingStart, .block | .blockMappingStart, .entry =>
      advance
      return mapping (← readBlockPairs fuel)
    | _, _ => if p.isPresent then return p.scalar "" true else fail .unexpectedToken

/-- The items of a block sequence, to its end. -/
def readBlockItems : Nat → TreeReader (List DocumentNode)
  | 0 => fail .unexpectedToken
  | fuel + 1 => do
    if ← accept .blockEntry then
      let item ← unlessAt [.blockEntry, .blockEnd] (readNode .block fuel)
      return item :: (← readBlockItems fuel)
    else
      expect .blockEnd
      return []

/-- The items of a sequence that is not indented; nothing marks its end. -/
def readLooseItems : Nat → TreeReader (List DocumentNode)
  | 0 => fail .unexpectedToken
  | fuel + 1 => do
    if ← accept .blockEntry then
      let item ← unlessAt [.blockEntry, .key, .value, .blockEnd] (readNode .block fuel)
      return item :: (← readLooseItems fuel)
    else return []

/-- The pairs of a block mapping, to its end. -/
def readBlockPairs : Nat → TreeReader (List (DocumentNode × DocumentNode))
  | 0 => fail .unexpectedToken
  | fuel + 1 => do
    if ← accept .key then
      let stops := [.key, .value, .blockEnd]
      let key ← unlessAt stops (readNode .entry fuel)
      let value ← readValue stops (readNode .entry fuel)
      return (key, value) :: (← readBlockPairs fuel)
    else
      expect .blockEnd
      return []

/-- The items of a sequence in brackets, to its end. A pair without braces is a mapping. -/
def readFlowItems (first : Bool) : Nat → TreeReader (List DocumentNode)
  | 0 => fail .unexpectedToken
  | fuel + 1 => do
    if ← accept .flowSequenceEnd then return []
    if !first then expect .flowEntry
    if ← accept .key then
      let key ← unlessAt [.value, .flowEntry, .flowSequenceEnd] (readNode .flow fuel)
      let value ← readValue [.flowEntry, .flowSequenceEnd] (readNode .flow fuel)
      return .ofPairs .mapping [(key, value)] :: (← readFlowItems false fuel)
    else if ← accept .flowSequenceEnd then return []
    else
      let item ← readNode .flow fuel
      return item :: (← readFlowItems false fuel)

/-- The pairs of a mapping in braces, to its end. A key may stand alone. -/
def readFlowPairs (first : Bool) : Nat → TreeReader (List (DocumentNode × DocumentNode))
  | 0 => fail .unexpectedToken
  | fuel + 1 => do
    if ← accept .flowMappingEnd then return []
    if !first then expect .flowEntry
    if ← accept .key then
      let key ← unlessAt [.value, .flowEntry, .flowMappingEnd] (readNode .flow fuel)
      let value ← readValue [.flowEntry, .flowMappingEnd] (readNode .flow fuel)
      return (key, value) :: (← readFlowPairs false fuel)
    else if ← accept .flowMappingEnd then return []
    else
      let key ← readNode .flow fuel
      return (key, .empty) :: (← readFlowPairs false fuel)

end

/-! ## Documents -/

/-- The handles that are declared from the start. -/
def standardHandles : List (String × String) := [("!", "!"), ("!!", Tag.standardScheme)]

/-- The directives before a document, given whether a version has been seen and which handles are
declared; a declared handle takes precedence over a standard one. -/
def readDirectives : Nat → Bool → List (String × String) → TreeReader Unit
  | 0, _, _ => fail .unexpectedToken
  | fuel + 1, versioned, handles => do
    match ← peek with
    | .directive (.version major) =>
      if versioned then fail .repeatedDirective
      if major ≠ 1 then fail .badVersion
      advance
      readDirectives fuel true handles
    | .directive (.handle name expansion) =>
      if (handles.lookup name).isSome then fail .repeatedDirective
      advance
      readDirectives fuel versioned ((name, expansion) :: handles)
    | .directive .unknown =>
      advance
      readDirectives fuel versioned handles
    | _ => modify fun s => { s with handles := handles ++ standardHandles }

/-- Passes document ends. -/
def skipDocumentEnds : Nat → TreeReader Unit
  | 0 => return ()
  | fuel + 1 => do if ← accept .documentEnd then skipDocumentEnds fuel

/-- Whether a document begins without a marker before a token. -/
def startsBare : Token → Bool
  | .directive _ | .documentStart | .textEnd => false
  | _ => true

/-- Whether a token stands in place of the content of a document. -/
def endsContent : Token → Bool
  | .directive _ | .documentStart | .documentEnd | .textEnd => true
  | _ => false

/-- The only document of a text, if there is one. -/
def readTree (fuel : Nat) : TreeReader (Option DocumentNode) := do
  if startsBare (← peek) then
    let node ← readNode .block fuel
    finish node
  else if (← peek) = .textEnd then return none
  else
    readDirectives fuel false []
    expect .documentStart
    let node ← if endsContent (← peek) then pure .empty else readNode .block fuel
    finish node
where
  /-- Makes sure that no other document follows. -/
  finish (node : DocumentNode) : TreeReader (Option DocumentNode) := do
    skipDocumentEnds fuel
    if (← peek) = .textEnd then return some node
    readDirectives fuel false []
    expect .documentStart
    fail .severalDocuments

end TreeReader

/-- The node of a document; none if the text has no document. Between two tokens that are passed
there are at most four steps. -/
def TokenList.toTree? (ts : TokenList) : Except DocumentFault (Option DocumentNode) :=
  let start := ⟨ts.tokens, ts.fault.getD (.malformed .unexpectedToken),
    TreeReader.standardHandles, []⟩
  (TreeReader.readTree (4 * (ts.tokens.length + 1))).run' start

end DataSchema
