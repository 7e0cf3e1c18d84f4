import DataSchema.Document.Token
import DataSchema.Text.DecimalDigit

set_option autoImplicit false

/-!
# Names in documents

Anchors and aliases, tags, and directives, each read from the indicator that starts it.

## Main definitions

* `DataSchema.Cursor.readAnchorName` — the name of an anchor or an alias.
* `DataSchema.Cursor.readTag` — a tag.
* `DataSchema.Cursor.readDirective` — a directive.
-/

namespace DataSchema

/-- Reading part of a document; readers give what was read and the place after it. -/
abbrev DocumentReader := Except DocumentFault

/-- Fails with a flaw. -/
def DocumentFlaw.throw {α : Type} (flaw : DocumentFlaw) : DocumentReader α :=
  .error (.malformed flaw)

/-- Whether a character can stand in a name. -/
def isNameChar (c : Char) : Bool := c.isAlphanum || c = '-' || c = '_'

/-- Whether a word can end before what stands at a place; a tab does not end it. -/
def endsWord : Option Char → Bool
  | none => true
  | some c => c = ' ' || isLineBreak c

/-- Whether a character can stand in a tag. -/
def isTagChar (c : Char) : Bool :=
  c.isAlphanum || "-;/?:@&=+$,_.!~*'()[]%".toList.contains c

/-- The value of an ASCII digit in base sixteen. -/
def hexDigit? (c : Char) : Option Nat := if c.toNat < 128 then baseDigit? 16 c else none

/-- The bytes that the characters of a tag stand for, and how many characters they are; an escape
is a percent sign with two digits. -/
def tagBytes? : List Char → Option (List UInt8 × Nat)
  | [] => some ([], 0)
  | '%' :: a :: b :: cs => do
    let high ← hexDigit? a
    let low ← hexDigit? b
    let (bytes, n) ← tagBytes? cs
    return (UInt8.ofNat (high * 16 + low) :: bytes, n + 3)
  | '%' :: _ => none
  | c :: cs =>
    if isTagChar c then do
      let (bytes, n) ← tagBytes? cs
      return (UInt8.ofNat c.toNat :: bytes, n + 1)
    else some ([], 0)

namespace Cursor

/-- A name of letters, digits, dashes and low lines. -/
def readName (c : Cursor) (flaw : DocumentFlaw) : DocumentReader (String × Cursor) :=
  let name := c.span isNameChar
  if name.isEmpty then flaw.throw else .ok (String.ofList name, c.pass name)

/-- The name after the indicator of an anchor or an alias. -/
def readAnchorName (c : Cursor) : DocumentReader (String × Cursor) := do
  let (name, c) ← c.next.readName .badAnchor
  if isBoundary c.peek || c.looksAt "?:,]\x7d%@`".toList.contains then return (name, c)
  else DocumentFlaw.badAnchor.throw

/-- The text of a tag, its escapes decoded. -/
def readTagText (c : Cursor) (flaw : DocumentFlaw) : DocumentReader (String × Cursor) :=
  match tagBytes? c.rest with
  | some (bytes, n + 1) =>
    match String.fromUTF8? ⟨bytes.toArray⟩ with
    | some s => .ok (s, c.pass (c.rest.take (n + 1)))
    | none => flaw.throw
  | _ => flaw.throw

/-- The handle of a tag: an exclamation mark, or a name between two of them. -/
def readHandle (c : Cursor) (flaw : DocumentFlaw) : DocumentReader (String × Cursor) :=
  if c.peek ≠ some '!' then flaw.throw
  else if c.peekAt 1 = some ' ' then .ok ("!", c.next)
  else
    let name := c.next.span isNameChar
    let after := c.next.pass name
    if after.peek = some '!' then .ok ("!" ++ String.ofList name ++ "!", after.next)
    else flaw.throw

/-- The handle and the suffix of a tag. A tag in angle brackets, or one that is nothing but an
exclamation mark, has no handle. -/
def readTagParts (c : Cursor) : DocumentReader ((Option String × String) × Cursor) :=
  if c.peekAt 1 = some '<' then do
    let (suffix, c) ← c.next.next.readTagText .badTag
    if c.peek = some '>' then return ((none, suffix), c.next) else DocumentFlaw.badTag.throw
  else if isBoundary (c.peekAt 1) then .ok ((none, "!"), c.next)
  else do
    let named := (c.next.span fun ch => !endsWord ch).contains '!'
    let (handle, c) ← if named then c.readHandle .badTag else .ok ("!", c.next)
    let (suffix, c) ← c.readTagText .badTag
    return ((some handle, suffix), c)

/-- A tag, which has to be followed by a space or the end of its line. -/
def readTag (c : Cursor) : DocumentReader (Token × Cursor) := do
  let ((handle, suffix), c) ← c.readTagParts
  if endsWord c.peek then return (.tag handle suffix, c) else DocumentFlaw.badTag.throw

/-- A number of a version. -/
def readVersionNumber (c : Cursor) : DocumentReader (Nat × Cursor) :=
  let digits := c.span Char.isDigit
  if digits.isEmpty then DocumentFlaw.badDirective.throw
  else .ok (digits.foldl (fun n d => n * 10 + (d.toNat - '0'.toNat)) 0, c.pass digits)

/-- The two numbers of a version, of which the first is kept. -/
def readVersion (c : Cursor) : DocumentReader (Directive × Cursor) := do
  let (major, c) ← c.skipSpaces.readVersionNumber
  if c.peek ≠ some '.' then DocumentFlaw.badDirective.throw
  let (_, c) ← c.next.readVersionNumber
  if endsWord c.peek then return (.version major, c) else DocumentFlaw.badDirective.throw

/-- A handle and what it stands for. -/
def readHandleMeaning (c : Cursor) : DocumentReader (Directive × Cursor) := do
  let (handle, c) ← c.skipSpaces.readHandle .badDirective
  if c.peek ≠ some ' ' then DocumentFlaw.badDirective.throw
  let (expansion, c) ← c.skipSpaces.readTagText .badDirective
  if endsWord c.peek then return (.handle handle expansion, c)
  else DocumentFlaw.badDirective.throw

/-- The end of a line on which nothing but a comment may follow. -/
def readLineEnd (c : Cursor) (flaw : DocumentFlaw) : DocumentReader Cursor :=
  let c := c.skipSpaces.skipComment
  match c.peek with
  | none => .ok c
  | some ch => if isLineBreak ch then .ok c.next else flaw.throw

/-- A directive with the line it stands on. -/
def readDirective (c : Cursor) : DocumentReader (Token × Cursor) := do
  let (name, c) ← c.next.readName .badDirective
  if !endsWord c.peek then DocumentFlaw.badDirective.throw
  let (directive, c) ←
    if name = "YAML" then c.readVersion
    else if name = "TAG" then c.readHandleMeaning
    else .ok (.unknown, c.pass c.restOfLine)
  return (.directive directive, ← c.readLineEnd .badDirective)

end Cursor

end DataSchema
