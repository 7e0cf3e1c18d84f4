import DataSchema.Value.Display

set_option autoImplicit false

/-!
# Conversion errors

Why a text cannot be converted to a date, a number or a truth value.

## Main definitions

* `DataSchema.FormatError` — the reasons.
* `DataSchema.FormatError.message` — a reason in words.
-/

namespace DataSchema

/-- Why a value cannot be converted for a format. -/
inductive FormatError
  /-- A text of some kind was expected, and a value of another class given. -/
  | expectedText (kind className : String)
  /-- A text is no date with a time. -/
  | invalidDateTime (text : String)
  /-- A value is no date. -/
  | invalidDate (text : String)
  /-- A text is no number. -/
  | invalidNumber (text : String)
  /-- A number is not whole. -/
  | notWhole (text : String)
  /-- A value is no truth value. -/
  | invalidBoolean (text : String)
  deriving DecidableEq, Repr

/-- A reason in words. -/
def FormatError.message : FormatError → String
  | expectedText kind className => "Expected a " ++ kind ++ " string, got " ++ className
  | invalidDateTime t => "Invalid date-time: '" ++ t ++ "'"
  | invalidDate t => "Invalid date: '" ++ t ++ "'"
  | invalidNumber t => "Invalid numeric value '" ++ t ++ "'"
  | notWhole t => "Non-integral value '" ++ t ++ "'"
  | invalidBoolean t => "Invalid boolean value '" ++ t ++ "'"

end DataSchema
