import DataSchema.Document.Fault

set_option autoImplicit false

/-!
# Places in a document

A cursor is a place in the text of a document: the characters from there on, and how far the place
lies from the beginning, in characters, lines and columns.

## Main definitions

* `DataSchema.Cursor` — a place.
* `DataSchema.Cursor.next`, `DataSchema.Cursor.pass` — moving on.
* `DataSchema.Cursor.lineBreak?` — moving over a line break.
-/

namespace DataSchema

/-- Whether a character ends a line. -/
def isLineBreak (c : Char) : Bool :=
  c = '\n' || c = '\r' || c.toNat = 0x85 || c.toNat = 0x2028 || c.toNat = 0x2029

/-- The mark that can stand before a document; it has no width. -/
def byteOrderMark : Char := Char.ofNat 0xfeff

/-- Whether a character is a space or a tab. -/
def isSpaceOrTab (c : Char) : Bool := c = ' ' || c = '\t'

/-- Whether a token can end before what stands at a place: a space, a tab, a line break, or the
end of the text. -/
def isBoundary : Option Char → Bool
  | none => true
  | some c => isSpaceOrTab c || isLineBreak c

/-- A place in the text of a document. -/
structure Cursor where
  /-- The characters from the place on. -/
  rest : List Char
  /-- The number of characters before the place. -/
  index : Nat
  /-- The number of lines before that of the place. -/
  line : Nat
  /-- The width of what stands before the place on its line. -/
  column : Nat

namespace Cursor

/-- The beginning of a text. -/
def ofChars (cs : List Char) : Cursor := ⟨cs, 0, 0, 0⟩

/-- The character at a place. -/
def peek (c : Cursor) : Option Char := c.rest.head?

/-- The character some way after a place. -/
def peekAt (c : Cursor) (n : Nat) : Option Char := c.rest[n]?

/-- Whether the character at a place satisfies `p`. -/
def looksAt (c : Cursor) (p : Char → Bool) : Bool := c.peek.any p

/-- The place after the next character. -/
def next (c : Cursor) : Cursor :=
  match c.rest with
  | [] => c
  | ch :: cs =>
    if isLineBreak ch then ⟨cs, c.index + 1, c.line + 1, 0⟩
    else ⟨cs, c.index + 1, c.line, if ch = byteOrderMark then c.column else c.column + 1⟩

/-- The place after as many characters as a list has. -/
def pass (c : Cursor) (cs : List Char) : Cursor := cs.foldl (fun c _ => c.next) c

/-- The characters from a place on that satisfy `p`. -/
def span (c : Cursor) (p : Char → Bool) : List Char := c.rest.takeWhile p

/-- The place after the characters that satisfy `p`. -/
def skip (c : Cursor) (p : Char → Bool) : Cursor := c.pass (c.span p)

/-- The place after the spaces. -/
def skipSpaces (c : Cursor) : Cursor := c.skip (· = ' ')

/-- The characters that are left on the line. -/
def restOfLine (c : Cursor) : List Char := c.span fun ch => !isLineBreak ch

/-- The place after a comment, if there is one. -/
def skipComment (c : Cursor) : Cursor := if c.peek = some '#' then c.pass c.restOfLine else c

/-- What a line break stands for in a text, and the place after it. The separators of lines and
paragraphs stand for themselves, all other line breaks for a line feed. -/
def lineBreak? (c : Cursor) : Option (Char × Cursor) :=
  match c.rest with
  | [] => none
  | ch :: _ =>
    if ch.toNat = 0x2028 || ch.toNat = 0x2029 then some (ch, c.next)
    else if isLineBreak ch then some ('\n', c.next)
    else none

/-- Whether three equal characters and then a boundary stand at a place. -/
def looksAtMarker (c : Cursor) (ch : Char) : Bool :=
  c.rest.take 3 = [ch, ch, ch] && isBoundary (c.peekAt 3)

/-- Whether a document marker stands at a place. -/
def looksAtDocumentMarker (c : Cursor) : Bool := c.looksAtMarker '-' || c.looksAtMarker '.'

end Cursor

end DataSchema
