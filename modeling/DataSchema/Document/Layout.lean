import DataSchema.Document.Scalar.Plain
import DataSchema.Document.Scalar.Quoted
import DataSchema.Document.Scalar.Block

set_option autoImplicit false

/-!
# The layout of a document

From the text of a document to its tokens. Block collections have no brackets: they start where
something stands further to the right than what surrounds it, and end where something stands
further to the left. A key need not be announced either: a token that can be a key is remembered,
and is known to be one when a colon follows on the same line.

## Main definitions

* `DataSchema.Layout` — how far a document is read, and what is open there.
* `DataSchema.TokenList` — the tokens of a document, with the fault that ends them if there is one.
* `DataSchema.TokenList.ofChars` — the tokens of a text.
-/

namespace DataSchema

/-- A token that can turn out to be a key. -/
structure PendingKey where
  /-- The number of tokens before it. -/
  position : Nat
  /-- Whether nothing but a key can stand there. -/
  required : Bool
  /-- The number of characters before it. -/
  index : Nat
  /-- The number of lines before it. -/
  line : Nat
  /-- The column that it starts in. -/
  column : Nat

/-- How far a document is read, and what is open there. -/
structure Layout where
  /-- The place. -/
  cursor : Cursor
  /-- The tokens before the place, the last one first. -/
  tokens : List Token
  /-- The columns of the open block collections, the innermost first. -/
  indents : List Nat
  /-- The number of open brackets and braces. -/
  flowDepth : Nat
  /-- Whether a key can start at the place. -/
  keyAllowed : Bool
  /-- The tokens that can turn out to be keys, by the number of brackets open around them. -/
  pending : List (Nat × PendingKey)

namespace Layout

/-- Nothing is read yet. -/
def ofChars (cs : List Char) : Layout := ⟨.ofChars cs, [], [], 0, true, []⟩

/-- Whether the place lies between brackets. -/
def inFlow (l : Layout) : Bool := l.flowDepth != 0

/-- The layout with a token put at the end. -/
def push (l : Layout) (t : Token) : Layout := { l with tokens := t :: l.tokens }

/-- The layout with a token put behind as many tokens as given. -/
def insertAt (l : Layout) (position : Nat) (t : Token) : Layout :=
  let after := l.tokens.length - position
  { l with tokens := l.tokens.take after ++ t :: l.tokens.drop after }

/-- The layout with as many characters passed as given, and a token for them. -/
def accept (l : Layout) (width : Nat) (t : Token) : Layout :=
  { l with cursor := l.cursor.pass (l.cursor.rest.take width), tokens := t :: l.tokens }

/-- The layout after blanks, comments and line breaks. Outside brackets, a key can start on a new
line. -/
def skipBlanks : Nat → Layout → Layout
  | 0, l => l
  | fuel + 1, l =>
    let c := l.cursor.skipSpaces.skipComment
    match c.lineBreak? with
    | some (_, c) => skipBlanks fuel { l with cursor := c, keyAllowed := l.keyAllowed || !l.inFlow }
    | none => { l with cursor := c }

/-- The layout at the next token. A mark at the very beginning of the text is passed over. -/
def toNextToken (l : Layout) : Layout :=
  let c := l.cursor
  let c := if c.index = 0 && c.peek = some byteOrderMark then c.next else c
  skipBlanks (c.rest.length + 1) { l with cursor := c }

/-! ## Keys -/

/-- Whether a token is too far away to be the key of what stands at a place. -/
def isStale (c : Cursor) (key : PendingKey) : Bool :=
  key.line != c.line || decide (1024 < c.index - key.index)

/-- Forgets the tokens that can no longer be keys. -/
def dropStale (l : Layout) : DocumentReader Layout :=
  if l.pending.any fun p => isStale l.cursor p.2 && p.2.required then
    DocumentFlaw.keyWithoutColon.throw
  else .ok { l with pending := l.pending.filter fun p => !isStale l.cursor p.2 }

/-- Forgets the token of the innermost brackets that could have been a key. -/
def dropPending (l : Layout) : DocumentReader Layout :=
  if l.pending.any fun p => p.1 = l.flowDepth && p.2.required then
    DocumentFlaw.keyWithoutColon.throw
  else .ok { l with pending := l.pending.filter fun p => p.1 != l.flowDepth }

/-- Remembers that the next token can be a key, if one can start at the place. -/
def savePending (l : Layout) : DocumentReader Layout :=
  if !l.keyAllowed then .ok l
  else do
    let c := l.cursor
    let required := !l.inFlow && l.indents.head? = some c.column
    let l ← l.dropPending
    return { l with
      pending :=
        (l.flowDepth, ⟨l.tokens.length, required, c.index, c.line, c.column⟩) :: l.pending }

/-! ## Indentation -/

/-- Whether a block collection that starts in a column lies inside the innermost one. -/
def isDeeper (l : Layout) (column : Nat) : Bool := !l.indents.head?.any (column ≤ ·)

/-- Closes the block collections to the right of a column. -/
def closeTo (l : Layout) (column : Nat) : Layout :=
  if l.inFlow then l
  else
    let closed := l.indents.takeWhile (column < ·)
    { l with
      indents := l.indents.drop closed.length
      tokens := List.replicate closed.length .blockEnd ++ l.tokens }

/-- Closes all block collections. -/
def closeAll (l : Layout) : Layout :=
  if l.inFlow then l
  else { l with indents := [], tokens := List.replicate l.indents.length .blockEnd ++ l.tokens }

/-- Opens a block collection in a column, if it lies inside the innermost one. -/
def openBlock (l : Layout) (column position : Nat) (t : Token) : Layout :=
  if l.isDeeper column then { l.insertAt position t with indents := column :: l.indents } else l

/-- Opens a block collection at the place where an indicator can start one; between brackets there
are no block collections. -/
def openHere (l : Layout) (t : Token) (flaw : DocumentFlaw) : DocumentReader Layout :=
  if l.inFlow then .ok l
  else if !l.keyAllowed then flaw.throw
  else .ok (l.openBlock l.cursor.column l.tokens.length t)

/-! ## Tokens -/

/-- The end of the text. -/
def readEnd (l : Layout) : DocumentReader Layout := do
  let l ← l.closeAll.dropPending
  return { l with keyAllowed := false, pending := [] }.push .textEnd

/-- A directive. -/
def readDirective (l : Layout) : DocumentReader Layout := do
  let l ← l.closeAll.dropPending
  let (t, c) ← l.cursor.readDirective
  return { l with keyAllowed := false, cursor := c }.push t

/-- A document marker. -/
def readMarker (l : Layout) (t : Token) : DocumentReader Layout := do
  let l ← l.closeAll.dropPending
  return { l with keyAllowed := false }.accept 3 t

/-- An opening bracket. -/
def readOpening (l : Layout) (t : Token) : DocumentReader Layout := do
  let l ← l.savePending
  return { l with flowDepth := l.flowDepth + 1, keyAllowed := true }.accept 1 t

/-- A closing bracket. -/
def readClosing (l : Layout) (t : Token) : DocumentReader Layout := do
  let l ← l.dropPending
  match l.flowDepth with
  | 0 => DocumentFlaw.unopened.throw
  | depth + 1 => return { l with flowDepth := depth, keyAllowed := false }.accept 1 t

/-- A comma. -/
def readComma (l : Layout) : DocumentReader Layout := do
  let l ← { l with keyAllowed := true }.dropPending
  return l.accept 1 .flowEntry

/-- A dash that starts an entry of a block sequence. -/
def readDash (l : Layout) : DocumentReader Layout := do
  let l ← l.openHere .blockSequenceStart .misplacedDash
  let l ← { l with keyAllowed := true }.dropPending
  return l.accept 1 .blockEntry

/-- A question mark that announces a key. -/
def readQuestionMark (l : Layout) : DocumentReader Layout := do
  let l ← l.openHere .blockMappingStart .misplacedKey
  let l ← { l with keyAllowed := !l.inFlow }.dropPending
  return l.accept 1 .key

/-- A colon. If a token is waiting to become a key, it becomes one. -/
def readColon (l : Layout) : DocumentReader Layout := do
  match l.pending.lookup l.flowDepth with
  | some key =>
    let l := { l with pending := l.pending.filter fun p => p.1 != l.flowDepth }
    let l := l.insertAt key.position .key
    let l := if l.inFlow then l else l.openBlock key.column key.position .blockMappingStart
    return { l with keyAllowed := false }.accept 1 .value
  | none =>
    let l ← l.openHere .blockMappingStart .misplacedColon
    let l ← { l with keyAllowed := !l.inFlow }.dropPending
    return l.accept 1 .value

/-- A token that can be a key: an anchor, an alias, a tag, or a text on one line. -/
def readKeyable (l : Layout) (read : Cursor → DocumentReader (Token × Cursor)) :
    DocumentReader Layout := do
  let l ← l.savePending
  let (t, c) ← read l.cursor
  return { l with keyAllowed := false, cursor := c }.push t

/-- A plain text. A key can follow it if a line break lies between them. -/
def readPlain (l : Layout) : DocumentReader Layout := do
  let l ← l.savePending
  let indent := (l.indents.head?.map (· + 1)).getD 0
  let plain := l.cursor.readPlain l.inFlow indent
  return { l with keyAllowed := plain.breaksLine, cursor := plain.after }.push
    (.scalar plain.text true)

/-- A block text. -/
def readBlock (l : Layout) (folded : Bool) : DocumentReader Layout := do
  let l ← { l with keyAllowed := true }.dropPending
  let (text, c) ← l.cursor.readBlock folded ((l.indents.head?.map (· + 1)).getD 0)
  return { l with cursor := c }.push (.scalar text false)

/-- Whether a plain text starts at a place. A dash can start one before anything but a boundary,
and so can a question mark or a colon outside brackets. -/
def startsPlain (l : Layout) (ch : Char) : Bool :=
  !(isBoundary (some ch) || "-?:,[]\x7b\x7d#&*!|>'\"%@`".toList.contains ch) ||
    (!isBoundary (l.cursor.peekAt 1) && (ch = '-' || (!l.inFlow && (ch = '?' || ch = ':'))))

/-- A token that starts with a character, no marker and no directive. -/
def readIndicated (l : Layout) (ch : Char) : DocumentReader Layout :=
  let alone := isBoundary (l.cursor.peekAt 1)
  match ch with
  | '[' => l.readOpening .flowSequenceStart
  | '\x7b' => l.readOpening .flowMappingStart
  | ']' => l.readClosing .flowSequenceEnd
  | '\x7d' => l.readClosing .flowMappingEnd
  | ',' => l.readComma
  | '*' => l.readKeyable fun c => do
    let (name, c) ← c.readAnchorName
    return (.alias name, c)
  | '&' => l.readKeyable fun c => do
    let (name, c) ← c.readAnchorName
    return (.anchor name, c)
  | '!' => l.readKeyable Cursor.readTag
  | '\'' | '"' => l.readKeyable fun c => do
    let (text, c) ← c.readQuoted ch
    return (.scalar text false, c)
  | _ =>
    if ch = '-' && alone then l.readDash
    else if ch = '?' && (l.inFlow || alone) then l.readQuestionMark
    else if ch = ':' && (l.inFlow || alone) then l.readColon
    else if (ch = '|' || ch = '>') && !l.inFlow then l.readBlock (ch = '>')
    else if l.startsPlain ch then l.readPlain
    else DocumentFlaw.noToken.throw

/-- The layout with the next token read. -/
def readToken (l : Layout) : DocumentReader Layout := do
  let l ← l.toNextToken.dropStale
  let l := l.closeTo l.cursor.column
  let c := l.cursor
  match c.peek with
  | none => l.readEnd
  | some ch =>
    if c.column = 0 && ch = '%' then l.readDirective
    else if c.column = 0 && c.looksAtMarker '-' then l.readMarker .documentStart
    else if c.column = 0 && c.looksAtMarker '.' then l.readMarker .documentEnd
    else l.readIndicated ch

/-- The tokens that can be told for certain, the last one first: those before the first one that
can still turn out to be a key. -/
def certainTokens (l : Layout) : List Token :=
  match l.dropStale with
  | .error _ => l.tokens
  | .ok l =>
    match (l.pending.map fun p => p.2.position).min? with
    | some position => l.tokens.drop (l.tokens.length - position)
    | none => l.tokens

end Layout

/-- The tokens of a document, and the fault that ends them if they do not end with the text. -/
structure TokenList where
  /-- The tokens, in order. -/
  tokens : List Token
  /-- The fault after them. -/
  fault : Option DocumentFault

namespace TokenList

/-- The tokens of a layout and those after it. -/
def ofLayout : Nat → Layout → TokenList
  | 0, l => ⟨l.tokens.reverse, some (.malformed .noToken)⟩
  | fuel + 1, l =>
    match l.readToken with
    | .error fault => ⟨l.certainTokens.reverse, some fault⟩
    | .ok l =>
      if l.tokens.head? = some .textEnd then ⟨l.tokens.reverse, none⟩ else ofLayout fuel l

/-- The tokens of a text. Each one takes at least a character, so that there is a step for each
character and one for the end. -/
def ofChars (cs : List Char) : TokenList := ofLayout (cs.length + 1) (.ofChars cs)

end TokenList

end DataSchema
