import DataSchema.Format.Error
import DataSchema.Text.Blank

set_option autoImplicit false

/-!
# Timestamps

Reading and rendering dates and timestamps. A timestamp is a date, `T` or a blank, an hour and a
minute, possibly a second with a fraction of any length, and possibly an offset. Without an offset
it is read as universal time, and what is read is always given in universal time.

## Main definitions

* `DataSchema.Timestamp.written?` — the date, clock and offset that a timestamp writes down.
* `DataSchema.Timestamp.parse` — the instant of a timestamp, in universal time.
* `DataSchema.parseDate` — reading a date.
* `DataSchema.Timestamp.render`, `DataSchema.renderDate` — the canonical texts.
-/

namespace DataSchema

namespace Timestamp

/-- Why a timestamp is not read. -/
inductive Failure
  /-- It is not a timestamp. -/
  | format (e : FormatError)
  /-- Its instant falls off the calendar. -/
  | offCalendar
  deriving DecidableEq, Repr

/-- The millionths of a second that a fraction writes down, further digits dropped. -/
def microseconds? (digits : List Char) : Option Nat :=
  if digits.isEmpty || !digits.all isDecimalDigit then none
  else asciiDigits? ((digits ++ List.replicate 6 '0').take 6)

/-- The seconds of an offset: none or `Z` for universal time, otherwise a sign, hours and
minutes, with or without a colon. -/
def offsetSeconds? : List Char → Option Int
  | [] | ['Z'] | ['z'] => some 0
  | [sign, h₁, h₂, ':', m₁, m₂] | [sign, h₁, h₂, m₁, m₂] => do
    let h ← asciiDigits? [h₁, h₂]
    let m ← asciiDigits? [m₁, m₂]
    if sign = '+' then some ((h * 3600 + m * 60 : Nat) : Int)
    else if sign = '-' then some (-((h * 3600 + m * 60 : Nat) : Int))
    else none
  | _ => none

/-- Whether a character can stand in a clock with a fraction. -/
def isClockChar (c : Char) : Bool := isDecimalDigit c || c = ':' || c = '.'

/-- The time of day that a clock writes down. -/
def clock? : List Char → Option Clock
  | [h₁, h₂, ':', m₁, m₂] => do
    Clock.ofParts? (← asciiDigits? [h₁, h₂]) (← asciiDigits? [m₁, m₂]) 0 0
  | [h₁, h₂, ':', m₁, m₂, ':', s₁, s₂] => do
    Clock.ofParts? (← asciiDigits? [h₁, h₂]) (← asciiDigits? [m₁, m₂]) (← asciiDigits? [s₁, s₂]) 0
  | h₁ :: h₂ :: ':' :: m₁ :: m₂ :: ':' :: s₁ :: s₂ :: '.' :: fraction => do
    Clock.ofParts? (← asciiDigits? [h₁, h₂]) (← asciiDigits? [m₁, m₂])
      (← asciiDigits? [s₁, s₂]) (← microseconds? fraction)
  | _ => none

/-- The date with a time, and its offset, that a timestamp writes down. -/
def written? (cs : List Char) : Option DateTime := do
  let date ← Date.ofChars? (cs.take 10)
  match cs.drop 10 with
  | separator :: rest =>
    if separator = 'T' ∨ separator = 't' ∨ separator = ' ' then
      let clock ← clock? (rest.takeWhile isClockChar)
      let offset ← Offset.ofSeconds? (← offsetSeconds? (rest.dropWhile isClockChar))
      return ⟨date, clock, some offset⟩
    else none
  | [] => none

/-- The instant of a timestamp with blanks around it, in universal time. -/
def parse (text : String) : Except Failure DateTime :=
  match written? (trimBy isBlank text.toList) with
  | none => .error (.format (.invalidDateTime text))
  | some t =>
    match t.toUtc? with
    | some utc => .ok utc
    | none => .error .offCalendar

/-- The instant of a value that is a timestamp. -/
def ofValue (v : Value) : Except Failure DateTime :=
  match v with
  | .str text => parse text
  | v => .error (.format (.expectedText "date-time" v.className))

/-- The canonical text: universal time is marked by `Z`, and a floating time is taken as
universal time. -/
def render (t : DateTime) : String :=
  match t.offset with
  | none => String.ofList ({ t with offset := none }.charsWith 'T' ++ ['Z'])
  | some o =>
    if o.seconds = 0 then String.ofList ({ t with offset := none }.charsWith 'T' ++ ['Z'])
    else t.text

end Timestamp

/-- Reads a date with blanks around it. -/
def parseDate (v : Value) : Except FormatError Date :=
  match v with
  | .str text =>
    match Date.ofChars? (trimBy isBlank text.toList) with
    | some d => .ok d
    | none => .error (.invalidDate text)
  | v => .error (.invalidDate v.text)

/-- The canonical text of a date, or of the date of a date with a time. -/
def renderDate? : Value → Option String
  | .date d => some d.text
  | .dateTime t => some t.date.text
  | _ => none

end DataSchema
