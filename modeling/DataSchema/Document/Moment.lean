import DataSchema.Calendar.Iso
import DataSchema.Document.Fault

set_option autoImplicit false

/-!
# Moments in documents

A moment is a date, possibly with a time of day and an offset, in the loose form that documents
use: one or two digits for most parts, and blanks between them.

## Main definitions

* `DataSchema.WrittenMoment` — the parts that are written down.
* `DataSchema.WrittenMoment.ofChars?` — reading them.
* `DataSchema.WrittenMoment.value` — the date, or the date with a time, that they denote.
-/

namespace DataSchema

/-- A time of day that is written down. -/
structure WrittenClock where
  /-- The hour. -/
  hour : Nat
  /-- The minute. -/
  minute : Nat
  /-- The second. -/
  second : Nat
  /-- The digits after the point. -/
  fraction : List Char
  /-- The distance from universal time in seconds, if one is given. -/
  offset : Option Int

/-- A moment that is written down; its parts need not exist. -/
structure WrittenMoment where
  /-- The year. -/
  year : Nat
  /-- The month. -/
  month : Nat
  /-- The day of the month. -/
  day : Nat
  /-- The time of day, if one is given. -/
  clock : Option WrittenClock
  /-- Whether the month and the day have two digits. -/
  isFull : Bool

namespace WrittenMoment

/-- The ASCII digits at the start of some characters, at most as many as given. -/
def digits (most : Nat) (cs : List Char) : List Char := (cs.take most).takeWhile Char.isDigit

/-- A number of digits within bounds, and the characters after it. -/
def number? (least most : Nat) (cs : List Char) : Option (Nat × List Char) :=
  let ds := digits most cs
  if least ≤ ds.length then some (digitsValue ds, cs.drop ds.length) else none

/-- The characters after an expected one. -/
def after? (c : Char) : List Char → Option (List Char)
  | d :: cs => if c = d then some cs else none
  | [] => none

/-- The offset that ends a moment: universal time, or a sign, hours, and possibly minutes. -/
def offset? : List Char → Option Int
  | ['Z'] => some 0
  | sign :: cs => do
    let (hours, cs) ← number? 1 2 cs
    let minutes ←
      match cs with
      | [] => some 0
      | _ => do
        let (minutes, cs) ← number? 2 2 (← after? ':' cs)
        if cs.isEmpty then some minutes else none
    let total : Int := ((hours * 3600 + minutes * 60 : Nat) : Int)
    if sign = '+' then some total else if sign = '-' then some (-total) else none
  | [] => none

/-- Whether a character is a space or a tab. -/
def isGap (c : Char) : Bool := c = ' ' || c = '\t'

/-- The time of day that ends a moment. -/
def clock? (cs : List Char) : Option WrittenClock := do
  let (hour, cs) ← number? 1 2 cs
  let (minute, cs) ← number? 2 2 (← after? ':' cs)
  let (second, cs) ← number? 2 2 (← after? ':' cs)
  let (fraction, cs) := match cs with
    | '.' :: cs => (cs.takeWhile Char.isDigit, cs.dropWhile Char.isDigit)
    | cs => ([], cs)
  if cs.isEmpty then return ⟨hour, minute, second, fraction, none⟩
  else return ⟨hour, minute, second, fraction, some (← offset? (cs.dropWhile isGap))⟩

/-- Reads a moment that is the whole text: a year, a month and a day, and then possibly a `T` or
blanks, and a time. -/
def ofChars? (cs : List Char) : Option WrittenMoment := do
  let (year, cs) ← number? 4 4 cs
  let monthDigits := digits 2 (cs.drop 1)
  let (month, cs) ← number? 1 2 (← after? '-' cs)
  let dayDigits := digits 2 (cs.drop 1)
  let (day, cs) ← number? 1 2 (← after? '-' cs)
  let isFull := monthDigits.length = 2 && dayDigits.length = 2
  match cs with
  | [] => return ⟨year, month, day, none, isFull⟩
  | c :: rest =>
    if c = 'T' ∨ c = 't' then return ⟨year, month, day, some (← clock? rest), isFull⟩
    else if isGap c then return ⟨year, month, day, some (← clock? (rest.dropWhile isGap)), isFull⟩
    else none

/-- The time of day with the offset that a written one denotes; of the digits after the point,
six count. -/
def clockValue? (c : WrittenClock) : Option (Clock × Option Offset) := do
  let microsecond := digitsValue ((c.fraction ++ List.replicate 6 '0').take 6)
  let clock ← Clock.ofParts? c.hour c.minute c.second microsecond
  match c.offset with
  | none => return (clock, none)
  | some seconds => return (clock, some (← Offset.ofSeconds? seconds))

/-- The date, or the date with a time, that a written moment denotes. -/
def value (m : WrittenMoment) : Except DocumentFault (Date ⊕ DateTime) :=
  match Date.ofParts? m.year m.month m.day, m.clock with
  | none, _ => .error .noSuchDate
  | some date, none => .ok (.inl date)
  | some date, some c =>
    match clockValue? c with
    | some (clock, offset) => .ok (.inr ⟨date, clock, offset⟩)
    | none => .error .noSuchDate

end WrittenMoment

end DataSchema
