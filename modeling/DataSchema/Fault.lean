import DataSchema.Pointer
import DataSchema.Number.Basic
import DataSchema.Pattern.Flaw
import DataSchema.Document.Fault

set_option autoImplicit false

/-!
# Faults

Why an evaluation stops without a verdict. Only the depth guard is part of the contract with
callers; the others mean that a keyword holds a value that it cannot work with, or that a number
or a date leaves the range that can be computed with.

## Main definitions

* `DataSchema.Fault` — the reasons.
* `DataSchema.Fault.message` — a reason in words.
-/

namespace DataSchema

/-- Why an evaluation stops without a verdict. -/
inductive Fault
  /-- Nesting exceeds the limit at a location. -/
  | tooDeep (limit : Int) (location : Path)
  /-- Values that have no order are compared. -/
  | unordered
  /-- A divisor is not a number. -/
  | notDivisor
  /-- A value that cannot be a key is looked up. -/
  | notKey
  /-- A text is needed, and the value is none. -/
  | notText
  /-- A value is asked for a property that its kind does not have. -/
  | noSuchProperty
  /-- A number leaves the range that can be computed with. -/
  | arithmetic (fault : ArithmeticFault)
  /-- A date leaves the calendar. -/
  | offCalendar
  /-- A text cannot be used as a pattern. -/
  | pattern (fault : PatternFault)
  /-- A document holds something that does not exist. -/
  | document (fault : DocumentFault)

/-- The message of the depth guard. -/
def tooDeepMessage (limit : Int) (location : Path) : String :=
  "Schema nesting exceeds maximum depth " ++ toString limit ++ " at " ++ location.pointer

/-- A fault in words. -/
def Fault.message : Fault → String
  | tooDeep limit location => tooDeepMessage limit location
  | unordered => "values without an order are compared"
  | notDivisor => "a divisor is not a number"
  | notKey => "a value that cannot be a key is looked up"
  | notText => "a text is needed"
  | noSuchProperty => "a value lacks a property"
  | arithmetic .tooLarge => "a number is too large"
  | arithmetic .notANumber => "a number is needed"
  | offCalendar => "a date lies off the calendar"
  | pattern _ => "a text cannot be used as a pattern"
  | document fault => fault.message

end DataSchema
