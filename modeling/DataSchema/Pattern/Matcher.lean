import DataSchema.Pattern.Basic
import DataSchema.Text.DecimalDigit
import DataSchema.Text.Blank
import DataSchema.Text.WordCharacter
import DataSchema.Text.LetterCase
import DataSchema.Pattern.Reader

set_option autoImplicit false

/-!
# Matching patterns

Whether a pattern matches somewhere in a text, by backtracking: a piece is matched at a place and
hands each way of matching, in order of preference, to what follows, until one succeeds.

## Main definitions

* `DataSchema.MatchState` — a place in the text and what the groups have captured.
* `DataSchema.Matcher.seq` — matching pieces at a place.
* `DataSchema.CompiledPattern.occursIn` — whether a pattern matches somewhere in a text.
-/

namespace DataSchema

/-- A place in a text and the spans that groups have captured. -/
structure MatchState where
  /-- The index of the place. -/
  place : Nat
  /-- The start and end of the last match of each group. -/
  captured : List (Nat × Nat × Nat)

namespace Matcher

/-! ## Characters -/

/-- A character in lower case, in the alphabet of the options. -/
def lower (o : PatternOptions) (c : Char) : Char := if o.ascii then c.toLower else lowerCase c

/-- The code points whose lower case form is a given one: itself, and its capitals. -/
def capitalsOf (c : Nat) : List Nat :=
  c :: (capitalRows.filterMap fun r =>
    let capital := (c : Int) - r.offset
    if 0 ≤ capital && r.first ≤ capital.toNat && capital.toNat ≤ r.last &&
      (capital.toNat - r.first) % r.step == 0 then some capital.toNat else none)

/-- The code points that are the same letter as a character when case is ignored. -/
def sameLetter (o : PatternOptions) (c : Char) : List Nat :=
  if o.ascii then [c.toLower.toNat, c.toUpper.toNat]
  else
    let l := (lowerCase c).toNat
    let siblings := ((caseSiblings.find? fun row => row.1 == l).map Prod.snd).getD []
    (l :: siblings).flatMap capitalsOf

/-- Whether a character is of a class. -/
def inClass (o : PatternOptions) (cls : CharacterClass) (c : Char) : Bool :=
  match cls with
  | .digit => if o.ascii then c.isDigit else isDecimalDigit c
  | .blank => isBlank c && (!o.ascii || c.toNat < 28)
  | .word => if o.ascii then c.isAlphanum || c = '_' else isWordCharacter c

/-- Whether one of some code points is a member of a set. -/
def isItem (o : PatternOptions) (candidates : List Nat) (c : Char) : SetItem → Bool
  | .single n => candidates.contains n
  | .range low high => candidates.any fun n => low ≤ n && n ≤ high
  | .ofClass cls negated => inClass o cls c != negated

/-- Whether a character is in a set. -/
def inSet (o : PatternOptions) (items : List SetItem) (c : Char) : Bool :=
  let candidates := if o.ignoreCase then sameLetter o c else [c.toNat]
  items.any (isItem o candidates c)

/-! ## Places -/

/-- Whether the character at an index satisfies `p`; there is none outside the text. -/
def holdsAt (text : Array Char) (p : Char → Bool) (i : Nat) : Bool :=
  match text[i]? with
  | some c => p c
  | none => false

/-- Whether a place is of a kind. A text without characters has no place of the two kinds that
look at words. -/
def atAnchor (o : PatternOptions) (text : Array Char) (a : Anchor) (i : Nat) : Bool :=
  let isBreak (c : Char) : Bool := c = '\n'
  let word (j : Nat) : Bool := holdsAt text (inClass o .word) j
  let edge : Bool := (i != 0 && word (i - 1)) != word i
  match a with
  | .textStart => i == 0
  | .textEnd => i == text.size
  | .lineStart => i == 0 || (o.everyLine && holdsAt text isBreak (i - 1))
  | .lineEnd =>
    i == text.size || (i + 1 == text.size && holdsAt text isBreak i) ||
      (o.everyLine && holdsAt text isBreak i)
  | .wordBoundary => text.size != 0 && edge
  | .insideWord => text.size != 0 && !edge

/-! ## Pieces -/

/-- The end of the text captured by a group, if the same text follows a place. -/
def captureFollows (o : PatternOptions) (text : Array Char) (s : MatchState) (group : Nat) :
    Option Nat :=
  match s.captured.lookup group with
  | none => none
  | some (start, stop) =>
    let length := stop - start
    let same (k : Nat) : Bool :=
      match text[start + k]?, text[s.place + k]? with
      | some a, some b => if o.ignoreCase then lower o a == lower o b else a == b
      | _, _ => false
    if (List.range length).all same then some (s.place + length) else none

mutual

/-- Matches pieces one after another at a place, then what follows. The bound is on the number
of steps down. -/
def seq (text : Array Char) (o : PatternOptions) (ps : List Pattern) (s : MatchState)
    (k : MatchState → Option MatchState) : Nat → Option MatchState
  | 0 => none
  | n + 1 =>
    match ps with
    | [] => k s
    | p :: ps => piece text o p s (fun s => seq text o ps s k n) n
termination_by structural n => n

/-- Matches a piece at a place, then what follows. -/
def piece (text : Array Char) (o : PatternOptions) (p : Pattern) (s : MatchState)
    (k : MatchState → Option MatchState) : Nat → Option MatchState
  | 0 => none
  | n + 1 =>
    let step (ok : Char → Bool) : Option MatchState :=
      if holdsAt text ok s.place then k { s with place := s.place + 1 } else none
    match p with
    | .character c negated => step fun d => inSet o [.single c] d != negated
    | .anyCharacter => step fun d => o.dotAll || d ≠ '\n'
    | .set items negated => step fun d => inSet o items d != negated
    | .anchor a => if atAnchor o text a s.place then k s else none
    | .group none added removed body => seq text (o.adjusted added removed) body s k n
    | .group (some index) added removed body =>
      let start := s.place
      seq text (o.adjusted added removed) body s
        (fun t => k { t with captured := (index, start, t.place) :: t.captured }) n
    | .atomic body =>
      match seq text o body s some n with
      | some t => k t
      | none => none
    | .alternatives branches => choice text o branches s k n
    | .look ahead negated body =>
      let width := (Pattern.listWidths body).low
      let found :=
        if ahead then seq text o body s some n
        else if s.place < width then none
        else seq text o body { s with place := s.place - width } some n
      match found, negated with
      | some t, false => k { t with place := s.place }
      | none, true => k s
      | _, _ => none
    | .backReference group _ =>
      match captureFollows o text s group with
      | some stop => k { s with place := stop }
      | none => none
    | .conditional group present absent =>
      if (s.captured.lookup group).isSome then seq text o present s k n
      else seq text o (absent.getD []) s k n
    | .repeated least most .greedy body => rounds text o body least most true none s k n
    | .repeated least most .lazy body => rounds text o body least most false none s k n
    | .repeated least most .possessive body =>
      match finalRounds text o body least most s n with
      | some t => k t
      | none => none
termination_by structural n => n

/-- Matches the first of several lists of pieces that lets what follows match. -/
def choice (text : Array Char) (o : PatternOptions) (branches : List (List Pattern))
    (s : MatchState) (k : MatchState → Option MatchState) : Nat → Option MatchState
  | 0 => none
  | n + 1 =>
    match branches with
    | [] => none
    | b :: bs =>
      match seq text o b s k n with
      | some t => some t
      | none => choice text o bs s k n
termination_by structural n => n

/-- Matches rounds of a repetition, then what follows. Once the least number is reached, another
round is tried only if the last such round moved on from `last`. -/
def rounds (text : Array Char) (o : PatternOptions) (body : List Pattern) (least : Nat)
    (most : Option Nat) (greedy : Bool) (last : Option Nat) (s : MatchState)
    (k : MatchState → Option MatchState) : Nat → Option MatchState
  | 0 => none
  | n + 1 =>
    let fewer := most.map (· - 1)
    if 0 < least then
      seq text o body s (fun t => rounds text o body (least - 1) fewer greedy last t k n) n
    else
      let another (_ : Unit) : Option MatchState :=
        if most = some 0 ∨ last = some s.place then none
        else seq text o body s
          (fun t => rounds text o body 0 fewer greedy (some s.place) t k n) n
      if greedy then
        match another () with
        | some t => some t
        | none => k s
      else
        match k s with
        | some t => some t
        | none => another ()
termination_by structural n => n

/-- Matches as many rounds as possible, each of them final. -/
def finalRounds (text : Array Char) (o : PatternOptions) (body : List Pattern) (least : Nat)
    (most : Option Nat) (s : MatchState) : Nat → Option MatchState
  | 0 => none
  | n + 1 =>
    if most = some 0 then some s
    else
      match seq text o body s some n with
      | none => if least = 0 then some s else none
      | some t =>
        if least = 0 ∧ t.place = s.place then some t
        else finalRounds text o body (least - 1) (most.map (· - 1)) t n
termination_by structural n => n

end

mutual

/-- A bound on the number of steps that one round through a piece takes. -/
def size : Pattern → Nat
  | .character .. | .anyCharacter | .set .. | .anchor _ | .backReference .. => 1
  | .group _ _ _ body | .atomic body | .look _ _ body => listSize body + 2
  | .repeated least _ _ body => (listSize body + 3) * (least + 2)
  | .alternatives branches => branchesSize branches + 2
  | .conditional _ present none => listSize present + 2
  | .conditional _ present (some absent) => listSize present + listSize absent + 2

/-- A bound for pieces one after another. -/
def listSize : List Pattern → Nat
  | [] => 1
  | p :: ps => size p + listSize ps + 2

/-- A bound for several lists of pieces. -/
def branchesSize : List (List Pattern) → Nat
  | [] => 1
  | b :: bs => listSize b + branchesSize bs + 2

end

end Matcher

namespace CompiledPattern

/-- Whether a pattern matches somewhere in a text. -/
def occursIn (p : CompiledPattern) (text : String) : Bool :=
  let cs := text.toList.toArray
  -- between two moves forward no round of a repetition is gone through twice
  let bound := (Matcher.listSize p.pieces + 2) * (cs.size + 2)
  (List.range (cs.size + 1)).any fun start =>
    (Matcher.seq cs p.options p.pieces ⟨start, []⟩ some bound).isSome

end CompiledPattern

end DataSchema
