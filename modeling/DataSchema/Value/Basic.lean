import DataSchema.Number.Basic
import DataSchema.Calendar.DateTime

set_option autoImplicit false

/-!
# Decoded values

The values that documents decode to and that casting builds: the kinds of JSON, dates and times,
tuples, and instances of record types. Mappings keep the order of their entries, and their keys
are values.

## Main definitions

* `DataSchema.Value` — decoded values.
* `DataSchema.Value.number?`, `DataSchema.Value.items?` — views of numbers and arrays.
* `DataSchema.Value.isTruthy` — whether a value counts as set.
* `DataSchema.Value.kindName`, `DataSchema.Value.className` — the names of kinds in messages.
-/

namespace DataSchema

/-- A decoded value. -/
inductive Value
  /-- The absent value. -/
  | null
  /-- A truth value. -/
  | bool (b : Bool)
  /-- A whole number. -/
  | int (n : Int)
  /-- A double. -/
  | float (x : Binary64)
  /-- A text. -/
  | str (s : String)
  /-- A calendar date. -/
  | date (d : Date)
  /-- A date with a time. -/
  | dateTime (t : DateTime)
  /-- An array. -/
  | list (items : List Value)
  /-- An array of fixed length. -/
  | tuple (items : List Value)
  /-- A mapping, in order. -/
  | mapping (entries : List (Value × Value))
  /-- An instance of a declared record type, its fields in declared order. -/
  | record (type : String) (fields : List (String × Value))
  /-- An instance of a type that takes any fields, in the order they were given. -/
  | openRecord (type : String) (fields : List (String × Value))

instance : Inhabited Value := ⟨.null⟩

namespace Value

/-- The text of a value that is a text. -/
def str? : Value → Option String
  | str s => some s
  | _ => none

/-- The number that a value is; a truth value is none. -/
def number? : Value → Option Number
  | int n => some (.int n)
  | float x => some (.float x)
  | _ => none

/-- The number that a value counts as in a comparison, where a truth value is zero or one. -/
def operand? : Value → Option Number
  | bool b => some (.int (if b then 1 else 0))
  | v => v.number?

/-- The items of an array of either kind. -/
def items? : Value → Option (List Value)
  | list xs | tuple xs => some xs
  | _ => none

/-- Whether a value is null. -/
def isNull : Value → Bool
  | null => true
  | _ => false

/-- Whether a value is a whole number or a double. -/
def isNumber (v : Value) : Bool := v.number?.isSome

/-- Whether a value is a whole number, or a double that is whole. -/
def isInteger : Value → Bool
  | int _ => true
  | float x => x.toInt?.isSome
  | _ => false

/-- Whether a value is an array of either kind. -/
def isArray (v : Value) : Bool := v.items?.isSome

/-- Whether a value is a mapping or an instance of a declared record type. -/
def isObject : Value → Bool
  | mapping _ | record .. => true
  | _ => false

/-- Whether a value counts as set: everything but null, false, zero, and what is empty. -/
def isTruthy : Value → Bool
  | null => false
  | bool b => b
  | int n => n != 0
  | float x => !(Number.float x).isZero
  | str s => s != ""
  | list xs | tuple xs => !xs.isEmpty
  | mapping es => !es.isEmpty
  | date _ | dateTime _ | record .. | openRecord .. => true

/-- The name of the kind of a value, as issues give it. -/
def kindName : Value → String
  | null => "null"
  | bool _ => "boolean"
  | int _ => "integer"
  | float _ => "number"
  | str _ => "string"
  | dateTime _ => "date-time"
  | date _ => "date"
  | list _ | tuple _ => "array"
  | mapping _ => "object"
  | record type _ | openRecord type _ => type

/-- The name of the class of a value, as errors about malformed input give it. -/
def className : Value → String
  | null => "NoneType"
  | bool _ => "bool"
  | int _ => "int"
  | float _ => "float"
  | str _ => "str"
  | dateTime _ => "datetime"
  | date _ => "date"
  | list _ => "list"
  | tuple _ => "tuple"
  | mapping _ => "dict"
  | record type _ | openRecord type _ => type

mutual

/-- The class of the first part of a value that keeps it from being a key of a mapping. Scalars
can be keys, and so can tuples of such values. -/
def keyObstacle? : Value → Option String
  | tuple xs => firstObstacle? xs
  | list _ => some "list"
  | mapping _ => some "dict"
  | record type _ | openRecord type _ => some type
  | _ => none

/-- The first obstacle among the values of a list. -/
def firstObstacle? : List Value → Option String
  | [] => none
  | x :: xs => (keyObstacle? x).or (firstObstacle? xs)

end

/-- Whether a value can be a key of a mapping. -/
def isKey (v : Value) : Bool := v.keyObstacle?.isNone

end Value

end DataSchema
