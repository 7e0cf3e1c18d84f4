import DataSchema.Value.Basic
import DataSchema.Number.Notation
import DataSchema.Calendar.Iso
import DataSchema.Text.Quoted

set_option autoImplicit false

/-!
# Values in messages

A value has a *literal* form, in which texts are quoted and dates name their parts, and a plain
form, in which a text stands for itself and dates are written in ISO form.

## Main definitions

* `DataSchema.Value.literal` — the literal form.
* `DataSchema.Value.text` — the plain form.
-/

namespace DataSchema

/-- Texts with commas between them. -/
def commaSeparated (parts : List String) : String := ", ".intercalate parts

/-- The literal form of a date. -/
def Date.literal (d : Date) : String :=
  "datetime.date(" ++ commaSeparated [toString d.year, toString d.month, toString d.day] ++ ")"

/-- The literal form of an offset: universal time by name, others by whole days and seconds. -/
def Offset.literal (o : Offset) : String :=
  if o.seconds = 0 then "datetime.timezone.utc"
  else if o.seconds < 0 then
    "datetime.timezone(datetime.timedelta(days=-1, seconds=" ++ toString (o.seconds + 86400) ++ "))"
  else "datetime.timezone(datetime.timedelta(seconds=" ++ toString o.seconds ++ "))"

/-- The literal form of a date with a time. Seconds are given unless they and what follows them
are zero. -/
def DateTime.literal (t : DateTime) : String :=
  let c := t.clock
  let fine :=
    if c.microsecond ≠ 0 then [c.second, c.microsecond]
    else if c.second ≠ 0 then [c.second] else []
  let parts := [t.date.year, t.date.month, t.date.day, c.hour, c.minute] ++ fine
  let offset := match t.offset with
    | some o => ["tzinfo=" ++ o.literal]
    | none => []
  "datetime.datetime(" ++ commaSeparated (parts.map toString ++ offset) ++ ")"

/-- The word for a truth value. -/
def truthWord (b : Bool) : String := if b then "True" else "False"

namespace Value

mutual

/-- The literal form of a value. -/
def literal : Value → String
  | null => "None"
  | bool b => truthWord b
  | int n => toString n
  | float x => plainNotation.write x
  | str s => quoted s
  | date d => d.literal
  | dateTime t => t.literal
  | list xs => "[" ++ commaSeparated (literals xs) ++ "]"
  | tuple [x] => "(" ++ literal x ++ ",)"
  | tuple xs => "(" ++ commaSeparated (literals xs) ++ ")"
  | mapping es => "\x7b" ++ commaSeparated (entryLiterals es) ++ "\x7d"
  | record type fs | openRecord type fs => type ++ "(" ++ commaSeparated (fieldLiterals fs) ++ ")"

/-- The literal forms of the values of a list. -/
def literals : List Value → List String
  | [] => []
  | x :: xs => literal x :: literals xs

/-- The literal forms of the entries of a mapping. -/
def entryLiterals : List (Value × Value) → List String
  | [] => []
  | (k, v) :: es => (literal k ++ ": " ++ literal v) :: entryLiterals es

/-- The literal forms of the fields of a record. -/
def fieldLiterals : List (String × Value) → List String
  | [] => []
  | (n, v) :: fs => (n ++ "=" ++ literal v) :: fieldLiterals fs

end

/-- The plain form of a value. -/
def text : Value → String
  | str s => s
  | date d => d.text
  | dateTime t => String.ofList (t.charsWith ' ')
  | v => v.literal

end Value

end DataSchema
