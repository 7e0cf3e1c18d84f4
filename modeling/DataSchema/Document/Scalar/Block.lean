import DataSchema.Document.Name

set_option autoImplicit false

/-!
# Block texts

Texts given by their indentation, after a line with an indicator. A *literal* text keeps its line
breaks, and a *folded* one has spaces for those between two lines that start with text. What is
kept of the line breaks at the end can be chosen.

## Main definitions

* `DataSchema.Chomping` — what is kept of the final line breaks.
* `DataSchema.Cursor.readBlock` — a block text.
-/

namespace DataSchema

/-- What is kept of the line breaks at the end of a block text. -/
inductive Chomping
  /-- None. -/
  | strip
  /-- The first. -/
  | clip
  /-- All. -/
  | keep
  deriving DecidableEq, Repr

/-- The first line of a block text. -/
structure BlockHeader where
  /-- What is kept of the final line breaks. -/
  chomping : Chomping
  /-- By how much the text is indented more than what surrounds it, if that is given. -/
  increment : Option Nat

namespace Cursor

/-- An indicator of what is kept of the final line breaks. -/
def readChomping? (c : Cursor) : Option (Chomping × Cursor) :=
  match c.peek with
  | some '+' => some (.keep, c.next)
  | some '-' => some (.strip, c.next)
  | _ => none

/-- An indicator of indentation, which is not zero. -/
def readIncrement (c : Cursor) : DocumentReader (Option Nat × Cursor) :=
  match c.peek with
  | some ch =>
    if ch = '0' then DocumentFlaw.badBlockHeader.throw
    else if ch.isDigit then .ok (some (ch.toNat - '0'.toNat), c.next)
    else .ok (none, c)
  | none => .ok (none, c)

/-- The indicators on the first line of a block text, in either order. -/
def readBlockHeader (c : Cursor) : DocumentReader (BlockHeader × Cursor) := do
  let (header, c) ←
    match c.readChomping? with
    | some (chomping, c) => do
      let (increment, c) ← c.readIncrement
      pure (⟨chomping, increment⟩, c)
    | none => do
      let (increment, c) ← c.readIncrement
      match increment, c.readChomping? with
      | some n, some (chomping, c) => pure (⟨chomping, some n⟩, c)
      | _, _ => pure (⟨.clip, increment⟩, c)
  if endsWord c.peek then return (header, ← c.readLineEnd .badBlockHeader)
  else DocumentFlaw.badBlockHeader.throw

/-- The blank lines at a place, and the greatest indentation among them and of what follows. -/
def blankLines : Nat → Cursor → List Char → Nat → List Char × Nat × Cursor
  | 0, c, breaks, widest => (breaks, widest, c)
  | fuel + 1, c, breaks, widest =>
    let c := c.skipSpaces
    let widest := max widest c.column
    match c.lineBreak? with
    | some (b, c) => blankLines fuel c (breaks ++ [b]) widest
    | none => (breaks, widest, c)

/-- The place after spaces up to a column. -/
def skipIndent (c : Cursor) (indent : Nat) : Cursor :=
  c.pass ((c.span (· = ' ')).take (indent - c.column))

/-- The empty lines at a place, with the indentation of what follows. -/
def emptyLines (indent : Nat) : Nat → Cursor → List Char → List Char × Cursor
  | 0, c, breaks => (breaks, c)
  | fuel + 1, c, breaks =>
    let c := c.skipIndent indent
    match c.lineBreak? with
    | some (b, c) => emptyLines indent fuel c (breaks ++ [b])
    | none => (breaks, c)

/-- What the line break after a line of a block text stands for when another line follows, with
some empty lines between them. -/
def joint (folded : Bool) (line : List Char) (lineBreak : List Char) (breaks : List Char)
    (following : Option Char) : List Char :=
  if folded && lineBreak = ['\n'] && !line.head?.any isSpaceOrTab &&
      !following.any isSpaceOrTab then
    if breaks.isEmpty then [' '] else []
  else lineBreak

/-- The lines of a block text from a place on, put after what is already read and the empty lines
before them: the text, the last line break, and the empty lines at the end. -/
def blockLines (folded : Bool) (indent : Nat) :
    Nat → Cursor → List Char → List Char → List Char → (List Char × List Char × List Char) × Cursor
  | 0, c, text, lineBreak, breaks => ((text, lineBreak, breaks), c)
  | fuel + 1, c, text, lineBreak, breaks =>
    if c.column ≠ indent || c.peek.isNone then ((text, lineBreak, breaks), c)
    else
      let line := c.restOfLine
      let c := c.pass line
      let (lineBreak, c) := match c.lineBreak? with
        | some (b, c) => ([b], c)
        | none => ([], c)
      let (following, c) := c.emptyLines indent (c.rest.length + 1) []
      let text := text ++ breaks ++ line
      if c.column = indent && c.peek.isSome then
        blockLines folded indent fuel c (text ++ joint folded line lineBreak following c.peek) []
          following
      else ((text, lineBreak, following), c)

/-- A block text, from its indicator on, inside something that leaves at least so many columns
to it. -/
def readBlock (c : Cursor) (folded : Bool) (least : Nat) : DocumentReader (String × Cursor) := do
  let (header, c) ← c.next.readBlockHeader
  let least := max least 1
  let fuel := c.rest.length + 1
  let (indent, breaks, c) :=
    match header.increment with
    | some n =>
      let indent := least + n - 1
      let (breaks, c) := c.emptyLines indent fuel []
      (indent, breaks, c)
    | none =>
      let (breaks, widest, c) := c.blankLines fuel [] 0
      (max least widest, breaks, c)
  let ((text, lineBreak, breaks), c) := c.blockLines folded indent fuel [] [] breaks
  let ending := match header.chomping with
    | .strip => []
    | .clip => lineBreak
    | .keep => lineBreak ++ breaks
  return (String.ofList (text ++ ending), c)

end Cursor

end DataSchema
