import DataSchema.Fault
import DataSchema.Format.Timestamp
import DataSchema.Format.Scalar
import DataSchema.Format.Address
import DataSchema.Format.Identifier
import DataSchema.Pattern.Reader

set_option autoImplicit false

/-!
# Conformance to a format

Whether a value conforms to the format that a schema names. A name that is not known is
conformed to by everything, and so is, by a value that is no text, a format of texts.

## Main definitions

* `DataSchema.KnownFormat` — the formats that are checked.
* `DataSchema.checkFormat` — why a value does not conform, if it does not.
-/

namespace DataSchema

/-- The formats that are checked. -/
inductive KnownFormat
  | dateTime
  | date
  | int32
  | int64
  | email
  | ipv4
  | ipv6
  | regex
  | time
  | uuid
  deriving DecidableEq, Repr

namespace KnownFormat

/-- The format of a name. -/
def ofName? : String → Option KnownFormat
  | "date-time" => some dateTime
  | "date" => some date
  | "int32" => some int32
  | "int64" => some int64
  | "email" | "idn-email" => some email
  | "ipv4" => some ipv4
  | "ipv6" => some ipv6
  | "regex" => some regex
  | "time" => some time
  | "uuid" => some uuid
  | _ => none

end KnownFormat

/-- The reason that a failure to read a date or a number gives. -/
def reasonOf {α : Type} : Except FormatError α → Option String
  | .ok _ => none
  | .error e => some e.message

/-- Whether a whole number fits into a signed word. -/
def fitsSigned (bits : Nat) (n : Int) : Bool :=
  decide (-Int.pow 2 (bits - 1) ≤ n) && decide (n ≤ Int.pow 2 (bits - 1) - 1)

/-- Why a value falls outside the range of a signed word, if it does. -/
def outOfRange (name : String) (bits : Nat) (v : Value) : Option String :=
  match v with
  | .int n =>
    if fitsSigned bits n then none
    else some ("Value " ++ toString n ++ " out of range for format '" ++ name ++ "'")
  | _ => none

/-- Whether a text conforms to a format of texts. -/
def textConforms (format : KnownFormat) (s : String) : Except Fault Bool :=
  match format with
  | .email => .ok (s.toList.contains '@')
  | .ipv4 => .ok (isIPv4 s.toList)
  | .ipv6 => .ok (isIPv6 s.toList)
  | .time => .ok (isClockTime s)
  | .uuid => .ok (isUuid s)
  | .regex =>
    match CompiledPattern.ofText s with
    | .ok _ => .ok true
    | .error (.malformed ..) => .ok false
    | .error fault => .error (.pattern fault)
  | _ => .ok true

/-- Why a value does not conform to a known format, if it does not. -/
def checkKnown (name : String) (format : KnownFormat) (v : Value) : Except Fault (Option String) :=
  match format, v with
  | .dateTime, .str s =>
    match Timestamp.parse s with
    | .ok _ => .ok none
    | .error (.format e) => .ok (some e.message)
    | .error .offCalendar => .error .offCalendar
  | .date, .str _ => .ok (reasonOf (parseDate v))
  | .int32, v => .ok (outOfRange name 32 v)
  | .int64, v => .ok (outOfRange name 64 v)
  | format, .str s => do
    if ← textConforms format s then return none
    return some ("Value '" ++ s ++ "' is not a valid '" ++ name ++ "'")
  | _, _ => .ok none

/-- Why a value does not conform to a format, if it does not. A format that does not count as
set says nothing, and one that is not a text is not known. -/
def checkFormat (v format : Value) : Except Fault (Option String) :=
  if !format.isTruthy then .ok none
  else match format with
    | .str name =>
      match KnownFormat.ofName? name with
      | some known => checkKnown name known v
      | none => .ok none
    | format => if format.isKey then .ok none else .error .notKey

end DataSchema
