import DataSchema.Format.Timestamp
import DataSchema.Number.Notation
import DataSchema.Text.Quoted

set_option autoImplicit false

/-!
# JSON text

Values as JSON text, each item of a collection on a line of its own, with two spaces more for each
collection around it. Beyond ASCII everything is escaped, by UTF-16 units. Dates are written in
their canonical form; keys that are scalars become texts.

## Main definitions

* `DataSchema.JsonFault` — why a value has no JSON text.
* `DataSchema.Value.json` — the JSON text of a value.
-/

namespace DataSchema

/-- Why a value has no JSON text. -/
inductive JsonFault
  /-- A key is neither a text, nor a number, a truth value or null. -/
  | key (className : String)
  /-- A value is of a kind that JSON does not have. -/
  | value (className : String)
  deriving DecidableEq, Repr

/-- A fault in words. -/
def JsonFault.message : JsonFault → String
  | key className => "keys must be str, int, float, bool or None, not " ++ className
  | value className => "Object of type " ++ className ++ " is not JSON serializable"

/-- A UTF-16 unit as an escape. -/
def unitEscape (unit : Nat) : List Char := '\\' :: 'u' :: paddedHex 4 unit

/-- A character inside quotes. -/
def jsonChar (c : Char) : List Char :=
  let n := c.toNat
  if c = '"' || c = '\\' then ['\\', c]
  else if c = '\n' then ['\\', 'n']
  else if c = '\r' then ['\\', 'r']
  else if c = '\t' then ['\\', 't']
  else if n = 8 then ['\\', 'b']
  else if n = 12 then ['\\', 'f']
  else if 32 ≤ n && n < 127 then [c]
  else if n < 0x10000 then unitEscape n
  else unitEscape (0xd800 + (n - 0x10000) / 0x400) ++ unitEscape (0xdc00 + (n - 0x10000) % 0x400)

/-- A text in quotes. -/
def jsonString (s : String) : String := String.ofList ('"' :: s.toList.flatMap jsonChar ++ ['"'])

/-- The word for a truth value. -/
def jsonBool (b : Bool) : String := if b then "true" else "false"

/-- The beginning of a line inside so many collections. -/
def jsonLineStart (depth : Nat) : String := "\n" ++ String.ofList (List.replicate (2 * depth) ' ')

/-- A collection of written items inside so many others. -/
def jsonCollection (left right : String) (depth : Nat) (items : List String) : String :=
  if items.isEmpty then left ++ right
  else
    let start := jsonLineStart (depth + 1)
    left ++ start ++ ("," ++ start).intercalate items ++ jsonLineStart depth ++ right

/-- A key as a text. -/
def Value.jsonKey : Value → Except JsonFault String
  | str s => .ok s
  | float x => .ok (jsonNotation.write x)
  | bool b => .ok (jsonBool b)
  | null => .ok "null"
  | int n => .ok (toString n)
  | key => .error (.key key.className)

namespace Value

mutual

/-- The JSON text of a value inside so many collections. -/
def jsonAt (depth : Nat) : Value → Except JsonFault String
  | null => .ok "null"
  | bool b => .ok (jsonBool b)
  | int n => .ok (toString n)
  | float x => .ok (jsonNotation.write x)
  | str s => .ok (jsonString s)
  | date d => .ok (jsonString d.text)
  | dateTime t => .ok (jsonString (Timestamp.render t))
  | list items | tuple items =>
    (jsonItems (depth + 1) items).map (jsonCollection "[" "]" depth)
  | mapping entries =>
    (jsonEntries (depth + 1) entries).map (jsonCollection "\x7b" "\x7d" depth)
  | record _ fields =>
    (jsonFields (depth + 1) fields).map (jsonCollection "\x7b" "\x7d" depth)
  | openRecord type _ => .error (.value type)

/-- The JSON texts of items. -/
def jsonItems (depth : Nat) : List Value → Except JsonFault (List String)
  | [] => .ok []
  | v :: vs => do
    let text ← jsonAt depth v
    return text :: (← jsonItems depth vs)

/-- The JSON texts of entries. -/
def jsonEntries (depth : Nat) : List (Value × Value) → Except JsonFault (List String)
  | [] => .ok []
  | (k, v) :: es => do
    let key ← k.jsonKey
    let text ← jsonAt depth v
    return (jsonString key ++ ": " ++ text) :: (← jsonEntries depth es)

/-- The JSON texts of fields. -/
def jsonFields (depth : Nat) : List (String × Value) → Except JsonFault (List String)
  | [] => .ok []
  | (name, v) :: fs => do
    let text ← jsonAt depth v
    return (jsonString name ++ ": " ++ text) :: (← jsonFields depth fs)

end

/-- The JSON text of a value. -/
def json (v : Value) : Except JsonFault String := v.jsonAt 0

end Value

end DataSchema
