import DataSchema.Calendar.DateTime
import DataSchema.Number.Numeral

set_option autoImplicit false

/-!
# Written dates and times

The extended ISO 8601 form: `2020-01-31`, `10:00:00`, a fraction of six digits when there are
microseconds, and an offset such as `+05:30`. Writing is total; reading accepts exactly this form.

## Main definitions

* `DataSchema.Date.text`, `DataSchema.DateTime.text` — the written forms.
* `DataSchema.Date.ofText?`, `DataSchema.DateTime.ofText?` — reading them.
-/

namespace DataSchema

/-- The decimal digits of a number, filled up with leading zeros to a width. -/
def padded (width n : Nat) : List Char :=
  let ds := Nat.toDigits 10 n
  List.replicate (width - ds.length) '0' ++ ds

/-- The written form of a date. -/
def Date.chars (d : Date) : List Char :=
  padded 4 d.year ++ '-' :: padded 2 d.month ++ '-' :: padded 2 d.day

/-- The written form of a date. -/
def Date.text (d : Date) : String := String.ofList d.chars

/-- The written form of a time of day; a fraction only if there is one. -/
def Clock.chars (c : Clock) : List Char :=
  padded 2 c.hour ++ ':' :: padded 2 c.minute ++ ':' :: padded 2 c.second ++
    if c.microsecond = 0 then [] else '.' :: padded 6 c.microsecond

/-- The written form of an offset; seconds only if there are some. -/
def Offset.chars (o : Offset) : List Char :=
  let s := o.seconds.natAbs
  (if o.seconds < 0 then '-' else '+') :: padded 2 (s / 3600) ++ ':' :: padded 2 (s / 60 % 60) ++
    if s % 60 = 0 then [] else ':' :: padded 2 (s % 60)

/-- The written form of a date with a time, with a character of choice between the two. -/
def DateTime.charsWith (separator : Char) (t : DateTime) : List Char :=
  t.date.chars ++ separator :: t.clock.chars ++ (t.offset.map Offset.chars).getD []

/-- The written form of a date with a time. -/
def DateTime.text (t : DateTime) : String := String.ofList (t.charsWith 'T')

/-- The value of a run of ASCII digits, if it is one. -/
def asciiDigits? (cs : List Char) : Option Nat :=
  if !cs.isEmpty && cs.all Char.isDigit then some (digitsValue cs) else none

/-- Reads a date written with four, two and two ASCII digits. -/
def Date.ofChars? : List Char → Option Date
  | [y₁, y₂, y₃, y₄, '-', m₁, m₂, '-', d₁, d₂] => do
    let y ← asciiDigits? [y₁, y₂, y₃, y₄]
    let m ← asciiDigits? [m₁, m₂]
    let d ← asciiDigits? [d₁, d₂]
    Date.ofParts? y m d
  | _ => none

/-- Reads a written date. -/
def Date.ofText? (s : String) : Option Date := Date.ofChars? s.toList

/-- Reads a time of day: hour and minute, then possibly a second, then possibly six digits of
its fraction. -/
def Clock.ofChars? : List Char → Option Clock
  | h₁ :: h₂ :: ':' :: m₁ :: m₂ :: rest => do
    let h ← asciiDigits? [h₁, h₂]
    let m ← asciiDigits? [m₁, m₂]
    match rest with
    | [] => Clock.ofParts? h m 0 0
    | [':', s₁, s₂] => Clock.ofParts? h m (← asciiDigits? [s₁, s₂]) 0
    | [':', s₁, s₂, '.', f₁, f₂, f₃, f₄, f₅, f₆] =>
      Clock.ofParts? h m (← asciiDigits? [s₁, s₂]) (← asciiDigits? [f₁, f₂, f₃, f₄, f₅, f₆])
    | _ => none
  | _ => none

/-- Reads an offset: a sign, hours and minutes, then possibly seconds. -/
def Offset.ofChars? : List Char → Option Offset
  | sign :: h₁ :: h₂ :: ':' :: m₁ :: m₂ :: rest => do
    let h ← asciiDigits? [h₁, h₂]
    let m ← asciiDigits? [m₁, m₂]
    let s ← match rest with
      | [] => some 0
      | [':', s₁, s₂] => asciiDigits? [s₁, s₂]
      | _ => none
    let total : Int := ((h * 3600 + m * 60 + s : Nat) : Int)
    if sign = '+' then Offset.ofSeconds? total
    else if sign = '-' then Offset.ofSeconds? (-total)
    else none
  | _ => none

/-- Reads a date with a time and possibly an offset. -/
def DateTime.ofText? (s : String) : Option DateTime := do
  let cs := s.toList
  let date ← Date.ofChars? (cs.take 10)
  let rest := cs.drop 11
  let isClock (c : Char) : Bool := c.isDigit || c == ':' || c == '.'
  let clock ← Clock.ofChars? (rest.takeWhile isClock)
  match rest.dropWhile isClock with
  | [] => return ⟨date, clock, none⟩
  | offset => return ⟨date, clock, some (← Offset.ofChars? offset)⟩

end DataSchema
