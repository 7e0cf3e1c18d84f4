set_option autoImplicit false

/-!
# Patterns

The syntax trees of the pattern language: characters and sets of them, anchors, groups,
alternatives, repetition, look-around, references back, and conditions on groups. Characters are
given by code point, since an escape can name a code point that no text holds.

## Main definitions

* `DataSchema.Pattern` — a piece of a pattern; a whole pattern is a list of pieces.
* `DataSchema.PatternOptions` — the options that change how pieces match.
* `DataSchema.Pattern.widths` — the least and greatest length of the texts that a piece matches.
-/

namespace DataSchema

/-- Places that match without consuming a character. -/
inductive Anchor
  /-- The start of the text or, line by line, of a line. -/
  | lineStart
  /-- The start of the text. -/
  | textStart
  /-- The end of the text, before a final line break or after it; or the end of a line. -/
  | lineEnd
  /-- The end of the text. -/
  | textEnd
  /-- A place between a word character and another. -/
  | wordBoundary
  /-- A place between two word characters or two others. -/
  | insideWord
  deriving DecidableEq, Repr

/-- The named classes of characters. -/
inductive CharacterClass
  | digit
  | blank
  | word
  deriving DecidableEq, Repr

/-- A member of a set of characters. -/
inductive SetItem
  /-- One code point. -/
  | single (c : Nat)
  /-- The code points from one to another. -/
  | range (low high : Nat)
  /-- A class, or all characters outside it. -/
  | ofClass (cls : CharacterClass) (negated : Bool)
  deriving DecidableEq, Repr

/-- How a repetition chooses between more and fewer rounds. -/
inductive Repetition
  /-- As many rounds as possible first. -/
  | greedy
  /-- As few rounds as possible first. -/
  | lazy
  /-- As many rounds as possible, never fewer. -/
  | possessive
  deriving DecidableEq, Repr

/-- The options that change how pieces match. -/
structure PatternOptions where
  /-- Letters match whatever their case. -/
  ignoreCase : Bool := false
  /-- The line anchors match at every line. -/
  everyLine : Bool := false
  /-- The dot matches a line break too. -/
  dotAll : Bool := false
  /-- Blanks and comments in the pattern stand for nothing. -/
  verbose : Bool := false
  /-- Classes and letter case know ASCII only. -/
  ascii : Bool := false
  /-- Classes and letter case know all characters, by explicit demand. -/
  unicode : Bool := false
  /-- The pattern is a template, in which nothing may be repeated. -/
  template : Bool := false
  deriving DecidableEq, Repr

namespace PatternOptions

/-- The options of either. -/
def union (a b : PatternOptions) : PatternOptions :=
  ⟨a.ignoreCase || b.ignoreCase, a.everyLine || b.everyLine, a.dotAll || b.dotAll,
    a.verbose || b.verbose, a.ascii || b.ascii, a.unicode || b.unicode, a.template || b.template⟩

/-- The options of both. -/
def intersection (a b : PatternOptions) : PatternOptions :=
  ⟨a.ignoreCase && b.ignoreCase, a.everyLine && b.everyLine, a.dotAll && b.dotAll,
    a.verbose && b.verbose, a.ascii && b.ascii, a.unicode && b.unicode, a.template && b.template⟩

/-- Whether no option is set. -/
def isEmpty (a : PatternOptions) : Bool := a == {}

/-- The options inside a group that sets some and clears others. Setting one of the two
alphabets replaces the other. -/
def adjusted (a added removed : PatternOptions) : PatternOptions :=
  let base :=
    if added.ascii || added.unicode then { a with ascii := false, unicode := false } else a
  let all := base.union added
  ⟨all.ignoreCase && !removed.ignoreCase, all.everyLine && !removed.everyLine,
    all.dotAll && !removed.dotAll, all.verbose && !removed.verbose, all.ascii, all.unicode,
    all.template⟩

end PatternOptions

/-- The least and greatest length of the texts that a piece matches. -/
structure Widths where
  /-- The least length. -/
  low : Nat
  /-- The greatest length, or the cap if there is none. -/
  high : Nat
  deriving DecidableEq, Repr

namespace Widths

/-- Lengths are counted up to this one. -/
def cap : Nat := Nat.pow 2 64

/-- The lengths of one text after another. -/
def add (a b : Widths) : Widths := ⟨a.low + b.low, a.high + b.high⟩

/-- The lengths of either of two texts. -/
def either (a b : Widths) : Widths := ⟨min a.low b.low, max a.high b.high⟩

/-- The lengths up to the cap. -/
def capped (a : Widths) : Widths := ⟨min a.low cap, min a.high cap⟩

/-- The lengths of a repeated text. -/
def repeated (a : Widths) (least : Nat) (most : Option Nat) : Widths :=
  ⟨a.low * least,
    match most with
    | some m => a.high * m
    | none => if a.high = 0 then 0 else cap⟩

end Widths

/-- A piece of a pattern. -/
inductive Pattern
  /-- One code point, or any other than it. -/
  | character (c : Nat) (negated : Bool)
  /-- Any character, line breaks possibly excepted. -/
  | anyCharacter
  /-- A character of a set, or one outside it. -/
  | set (items : List SetItem) (negated : Bool)
  /-- A place. -/
  | anchor (a : Anchor)
  /-- A group: its number if it captures, options set and cleared inside, its pieces. -/
  | group (index : Option Nat) (added removed : PatternOptions) (body : List Pattern)
  /-- Pieces repeated between a least and possibly a greatest number of times. -/
  | repeated (least : Nat) (most : Option Nat) (kind : Repetition) (body : List Pattern)
  /-- One of several lists of pieces, tried in order. -/
  | alternatives (branches : List (List Pattern))
  /-- What must, or must not, follow or precede a place. -/
  | look (ahead negated : Bool) (body : List Pattern)
  /-- The text captured by a group, whose own lengths are known. -/
  | backReference (index : Nat) (widths : Widths)
  /-- One list of pieces if a group has matched, another if not. -/
  | conditional (index : Nat) (present : List Pattern) (absent : Option (List Pattern))
  /-- Pieces whose first match is final. -/
  | atomic (body : List Pattern)

namespace Pattern

mutual

/-- The lengths of the texts that a piece matches. -/
def widths : Pattern → Widths
  | character .. | anyCharacter | set .. => ⟨1, 1⟩
  | anchor _ | look .. => ⟨0, 0⟩
  | group _ _ _ body | atomic body => listWidths body
  | repeated least most _ body => (listWidths body).repeated least most
  | alternatives branches => branchWidths branches
  | backReference _ w => w
  | conditional _ present none => ⟨0, (listWidths present).high⟩
  | conditional _ present (some absent) => (listWidths present).either (listWidths absent)

/-- The lengths of the texts that pieces match one after another, up to the cap. -/
def listWidths : List Pattern → Widths
  | [] => ⟨0, 0⟩
  | p :: ps => ((widths p).add (listWidths ps)).capped

/-- The lengths of the texts that one of several lists matches. -/
def branchWidths : List (List Pattern) → Widths
  | [] => ⟨Widths.cap, 0⟩
  | b :: bs => (listWidths b).either (branchWidths bs)

end

end Pattern

end DataSchema
