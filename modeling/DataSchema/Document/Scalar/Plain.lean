import DataSchema.Document.Cursor

set_option autoImplicit false

/-!
# Plain texts

Texts without quotes. A plain text goes on over spaces and line breaks, which are folded, until
an indicator that cannot stand in it, a comment, or a line that is indented too little.

## Main definitions

* `DataSchema.Cursor.readPlain` — a plain text.
-/

namespace DataSchema

/-- Whether a plain text stops before some characters. A colon stops it only before a boundary;
between brackets, also before another bracket or a comma. -/
def stopsPlain (inFlow : Bool) : List Char → Bool
  | [] => true
  | c :: cs =>
    isBoundary (some c) ||
      (c = ':' &&
        (isBoundary cs.head? || (inFlow && cs.head?.any ",[]\x7b\x7d".toList.contains))) ||
      (inFlow && ",?[]\x7b\x7d".toList.contains c)

/-- The characters up to where a plain text stops. -/
def plainRun (inFlow : Bool) : List Char → List Char
  | [] => []
  | c :: cs => if stopsPlain inFlow (c :: cs) then [] else c :: plainRun inFlow cs

/-- What stands between two runs of a plain text. -/
structure PlainGap where
  /-- What it stands for in the text; nothing if the text cannot go on after it. -/
  text : List Char
  /-- Whether it has a line break. -/
  breaksLine : Bool
  /-- The place after it. -/
  after : Cursor

/-- A plain text. -/
structure PlainText where
  /-- The text. -/
  text : String
  /-- Whether a line break follows it. -/
  breaksLine : Bool
  /-- The place after it and what follows it. -/
  after : Cursor

namespace Cursor

/-- The line breaks after the first one of a gap, with the spaces between them; nothing for them
if a document marker follows. -/
def plainBreaks : Nat → Cursor → List Char → Option (List Char) × Cursor
  | 0, c, breaks => (some breaks, c)
  | fuel + 1, c, breaks =>
    let c := c.skipSpaces
    match c.lineBreak? with
    | none => (some breaks, c)
    | some (b, c) =>
      if c.looksAtDocumentMarker then (none, c) else plainBreaks fuel c (breaks ++ [b])

/-- The gap at a place. -/
def plainGap (c : Cursor) : PlainGap :=
  let spaces := c.span (· = ' ')
  let c := c.pass spaces
  match c.lineBreak? with
  | none => ⟨spaces, false, c⟩
  | some (b, c) =>
    if c.looksAtDocumentMarker then ⟨[], true, c⟩
    else match plainBreaks (c.rest.length + 1) c [] with
      | (none, c) => ⟨[], true, c⟩
      | (some breaks, c) =>
        let first := if b ≠ '\n' then [b] else if breaks.isEmpty then [' '] else []
        ⟨first ++ breaks, true, c⟩

/-- The runs of a plain text from a place on, put after what is already read. -/
def plainRuns (inFlow : Bool) (indent : Nat) : Nat → Cursor → List Char → PlainText
  | 0, c, text => ⟨String.ofList text, false, c⟩
  | fuel + 1, c, text =>
    let run := plainRun inFlow c.rest
    let gap := (c.pass run).plainGap
    let goesOn := !gap.text.isEmpty && gap.after.peek ≠ some '#' &&
      (inFlow || decide (indent ≤ gap.after.column)) && !(plainRun inFlow gap.after.rest).isEmpty
    if goesOn then plainRuns inFlow indent fuel gap.after (text ++ run ++ gap.text)
    else ⟨String.ofList (text ++ run), gap.breaksLine, gap.after⟩

/-- A plain text whose lines are indented by at least so many columns. -/
def readPlain (c : Cursor) (inFlow : Bool) (indent : Nat) : PlainText :=
  plainRuns inFlow indent (c.rest.length + 1) c []

end Cursor

end DataSchema
