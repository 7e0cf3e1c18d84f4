import DataSchema.Calendar.Date

set_option autoImplicit false

/-!
# Dates with a time

A date with a time of day, to the microsecond, and possibly its distance from universal time.
One without that distance is *floating*: it names no instant.

## Main definitions

* `DataSchema.Clock` — a time of day.
* `DataSchema.Offset` — a distance from universal time, less than a day either way.
* `DataSchema.DateTime` — a date, a time of day, and possibly an offset.
* `DataSchema.DateTime.instant?` — the microseconds from the beginning of the calendar.
* `DataSchema.DateTime.toUtc?` — the same instant in universal time.
-/

namespace DataSchema

/-- A time of day. -/
structure Clock where
  /-- The hour. -/
  hour : Nat
  /-- The minute. -/
  minute : Nat
  /-- The second. -/
  second : Nat
  /-- The millionths of a second. -/
  microsecond : Nat
  hour_lt : hour < 24
  minute_lt : minute < 60
  second_lt : second < 60
  microsecond_lt : microsecond < 1000000
  deriving DecidableEq

namespace Clock

/-- The time of day with the given parts, if there is one. -/
def ofParts? (h m s us : Nat) : Option Clock :=
  if p : h < 24 ∧ m < 60 ∧ s < 60 ∧ us < 1000000 then
    some ⟨h, m, s, us, p.1, p.2.1, p.2.2.1, p.2.2.2⟩
  else none

/-- The whole seconds since midnight. -/
def seconds (c : Clock) : Nat := c.hour * 3600 + c.minute * 60 + c.second

/-- The time of day a number of seconds after midnight. -/
def ofSeconds? (s us : Nat) : Option Clock := ofParts? (s / 3600) (s / 60 % 60) (s % 60) us

end Clock

/-- A distance from universal time in seconds, positive to the east. -/
structure Offset where
  /-- The seconds by which local clocks are ahead. -/
  seconds : Int
  lt_day : -86400 < seconds ∧ seconds < 86400
  deriving DecidableEq

namespace Offset

/-- The offset of a number of seconds, if it is less than a day. -/
def ofSeconds? (s : Int) : Option Offset :=
  if h : -86400 < s ∧ s < 86400 then some ⟨s, h⟩ else none

/-- No distance from universal time. -/
def utc : Offset := ⟨0, by decide⟩

end Offset

/-- A date with a time of day and possibly an offset. -/
structure DateTime where
  /-- The date on the local calendar. -/
  date : Date
  /-- The time on the local clock. -/
  clock : Clock
  /-- The distance from universal time, if it is known. -/
  offset : Option Offset
  deriving DecidableEq

namespace DateTime

/-- The microseconds of the local calendar and clock from the beginning of the calendar. -/
def localMicroseconds (t : DateTime) : Int :=
  ((t.date.ordinal : Int) * 86400 + t.clock.seconds) * 1000000 + t.clock.microsecond

/-- The microseconds from the beginning of the calendar, in universal time. -/
def instant? (t : DateTime) : Option Int :=
  t.offset.map fun o => t.localMicroseconds - o.seconds * 1000000

/-- Two dates with times are equal when they name the same instant, or when both are floating
and read the same. -/
def same (a b : DateTime) : Bool :=
  match a.instant?, b.instant? with
  | some x, some y => x == y
  | none, none => a == b
  | _, _ => false

/-- The same instant in universal time, unless it falls off the calendar. A floating time is
taken as universal time already. -/
def toUtc? (t : DateTime) : Option DateTime :=
  let shifted := (t.clock.seconds : Int) - (t.offset.map (·.seconds)).getD 0
  let day? :=
    if shifted < 0 then t.date.previous? else if 86400 ≤ shifted then t.date.next? else some t.date
  match day?, Clock.ofSeconds? (shifted % 86400).toNat t.clock.microsecond with
  | some day, some clock => some ⟨day, clock, some .utc⟩
  | _, _ => none

end DateTime

end DataSchema
