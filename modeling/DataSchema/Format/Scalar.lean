import DataSchema.Format.Error

set_option autoImplicit false

/-!
# Numbers and truth values from text

## Main definitions

* `DataSchema.parseNumber` — the double that a text denotes.
* `DataSchema.parseInteger` — the whole number that a text denotes.
* `DataSchema.parseBoolean` — the truth value that a text names.
-/

namespace DataSchema

/-- The numeral that a value is, with blanks around it, in the range of exact work. -/
def parseNumeral (v : Value) : Except FormatError Numeral :=
  match v with
  | .str text =>
    match Numeral.ofChars? (trimBy isBlank text.toList) with
    | some n => if n.inRange then .ok n else .error (.invalidNumber text)
    | none => .error (.invalidNumber text)
  | v => .error (.expectedText "numeric" v.className)

/-- The double nearest to the number that a text denotes. -/
def parseNumber (v : Value) : Except FormatError Binary64 :=
  (parseNumeral v).map Numeral.toBinary64

/-- The whole number that a text denotes; a fraction or an exponent may be written. -/
def parseInteger (v : Value) : Except FormatError Int := do
  let n ← parseNumeral v
  match n.toInt? with
  | some i => .ok i
  | none => .error (.notWhole v.text)

/-- The truth value that a text names, in letters of any case. -/
def parseBoolean (v : Value) : Except FormatError Bool :=
  match v with
  | .str text =>
    match (trimBy isBlank text.toList).map Char.toLower with
    | ['t', 'r', 'u', 'e'] => .ok true
    | ['f', 'a', 'l', 's', 'e'] => .ok false
    | _ => .error (.invalidBoolean text)
  | v => .error (.invalidBoolean v.text)

end DataSchema
