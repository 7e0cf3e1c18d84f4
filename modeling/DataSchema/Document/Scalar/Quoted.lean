import DataSchema.Document.Name

set_option autoImplicit false

/-!
# Quoted texts

Texts between single or double quotes. A line break inside them, with the blanks around it, is
folded: it stands for a space, and further line breaks after it stand for themselves. Between
double quotes a backslash starts an escape.

## Main definitions

* `DataSchema.Cursor.readQuoted` — a quoted text.
-/

namespace DataSchema

/-- The characters that single letters stand for in an escape. -/
def escapedChars : List (Char × Nat) := [
  ('0', 0), ('a', 7), ('b', 8), ('t', 9), ('\t', 9), ('n', 10), ('v', 11), ('f', 12), ('r', 13),
  ('e', 27), (' ', 32), ('"', 34), ('\\', 92), ('/', 47), ('N', 0x85), ('_', 0xa0), ('L', 0x2028),
  ('P', 0x2029)]

/-- The number of digits after the letters of numeric escapes. -/
def escapeWidths : List (Char × Nat) := [('x', 2), ('u', 4), ('U', 8)]

/-- The number that some digits in base sixteen write down. -/
def hexNumber? (cs : List Char) : Option Nat :=
  cs.foldl (fun n c => do return (← n) * 16 + (← hexDigit? c)) (some 0)

namespace Cursor

/-- The line breaks from the beginning of a line on, with the blanks before and between them. -/
def readFoldedBreaks : Nat → Cursor → List Char → DocumentReader (List Char × Cursor)
  | 0, _, _ => DocumentFlaw.unclosedQuote.throw
  | fuel + 1, c, breaks =>
    if c.looksAtDocumentMarker then DocumentFlaw.markerInQuotes.throw
    else
      let c := c.skip isSpaceOrTab
      match c.lineBreak? with
      | some (b, c) => readFoldedBreaks fuel c (breaks ++ [b])
      | none => .ok (breaks, c)

/-- What some blanks, and the line breaks after them, stand for in a quoted text. -/
def readQuotedBlanks (c : Cursor) : DocumentReader (List Char × Cursor) :=
  let blanks := c.span isSpaceOrTab
  let c := c.pass blanks
  match c.lineBreak? with
  | none => .ok (blanks, c)
  | some (b, c) => do
    let (breaks, c) ← readFoldedBreaks (c.rest.length + 1) c []
    let first := if b ≠ '\n' then [b] else if breaks.isEmpty then [' '] else []
    return (first ++ breaks, c)

/-- The character of a code. A high surrogate combines with the escape of a low one after it. -/
def readCode (c : Cursor) (code : Nat) : DocumentReader (List Char × Cursor) :=
  if 0x10ffff < code then .error .noSuchCharacter
  else if 0xd800 ≤ code && code < 0xdc00 && c.rest.take 2 = ['\\', 'u'] then
    match hexNumber? ((c.rest.drop 2).take 4) with
    | some low =>
      if 0xdc00 ≤ low && low < 0xe000 then
        .ok ([Char.ofNat (0x10000 + (code - 0xd800) * 0x400 + (low - 0xdc00))],
          c.pass (c.rest.take 6))
      else .ok ([Char.ofNat 0xfffd], c)
    | none => .ok ([Char.ofNat 0xfffd], c)
  else if 0xd800 ≤ code && code < 0xe000 then .ok ([Char.ofNat 0xfffd], c)
  else .ok ([Char.ofNat code], c)

/-- What an escape stands for, from the character after the backslash on. -/
def readEscape (c : Cursor) : DocumentReader (List Char × Cursor) :=
  match c.peek with
  | none => DocumentFlaw.badEscape.throw
  | some ch =>
    match escapedChars.lookup ch, escapeWidths.lookup ch with
    | some code, _ => .ok ([Char.ofNat code], c.next)
    | none, some width =>
      let digits := c.next.rest.take width
      match hexNumber? digits with
      | some code =>
        if digits.length = width then readCode (c.next.pass digits) code
        else DocumentFlaw.badEscape.throw
      | none => DocumentFlaw.badEscape.throw
    | none, none =>
      match c.lineBreak? with
      | some (_, c) => readFoldedBreaks (c.rest.length + 1) c []
      | none => DocumentFlaw.badEscape.throw

/-- The next piece of a quoted text: what it stands for, or nothing for the closing quote. -/
def readQuotedPiece (c : Cursor) (quote : Char) :
    DocumentReader (Option (List Char) × Cursor) :=
  match c.peek with
  | none => DocumentFlaw.unclosedQuote.throw
  | some ch =>
    if isSpaceOrTab ch || isLineBreak ch then do
      let (text, c) ← c.readQuotedBlanks
      if c.peek.isNone then DocumentFlaw.unclosedQuote.throw else return (some text, c)
    else if ch = quote then
      if quote = '\'' && c.peekAt 1 = some '\'' then .ok (some ['\''], c.next.next)
      else .ok (none, c.next)
    else if ch = '\\' && quote = '"' then do
      let (text, c) ← c.next.readEscape
      return (some text, c)
    else .ok (some [ch], c.next)

/-- The pieces of a quoted text up to the closing quote, put after those that are already read in
reverse order. -/
def readQuotedRest (quote : Char) : Nat → Cursor → List Char → DocumentReader (String × Cursor)
  | 0, _, _ => DocumentFlaw.unclosedQuote.throw
  | fuel + 1, c, reversed => do
    match ← c.readQuotedPiece quote with
    | (none, c) => return (String.ofList reversed.reverse, c)
    | (some text, c) => readQuotedRest quote fuel c (text.reverse ++ reversed)

/-- A quoted text, from its opening quote on. -/
def readQuoted (c : Cursor) (quote : Char) : DocumentReader (String × Cursor) :=
  readQuotedRest quote (c.rest.length + 1) c.next []

end Cursor

end DataSchema
