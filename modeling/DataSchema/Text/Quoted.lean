import DataSchema.Text.Printable

set_option autoImplicit false

/-!
# Quoted text

The literal form in which messages show a text: in single quotes, or in double quotes when the
text has a single quote and no double one, with escapes for the backslash, the quote, control
characters, and every character that is not printable.

## Main definitions

* `DataSchema.quoted` — the literal form of a text.
-/

namespace DataSchema

/-- The hexadecimal digits of a number, filled up with leading zeros to a width. -/
def paddedHex (width n : Nat) : List Char :=
  let ds := Nat.toDigits 16 n
  List.replicate (width - ds.length) '0' ++ ds

/-- A character inside quotes. -/
def quotedChar (quote : Char) (c : Char) : List Char :=
  if c = quote ∨ c = '\\' then ['\\', c]
  else if c = '\t' then ['\\', 't']
  else if c = '\n' then ['\\', 'n']
  else if c = '\r' then ['\\', 'r']
  else if isPrintable c then [c]
  else if c.toNat < 0x100 then '\\' :: 'x' :: paddedHex 2 c.toNat
  else if c.toNat < 0x10000 then '\\' :: 'u' :: paddedHex 4 c.toNat
  else '\\' :: 'U' :: paddedHex 8 c.toNat

/-- The literal form of a text. -/
def quoted (s : String) : String :=
  let cs := s.toList
  let quote := if cs.contains '\'' && !cs.contains '"' then '"' else '\''
  String.ofList (quote :: cs.flatMap (quotedChar quote) ++ [quote])

end DataSchema
