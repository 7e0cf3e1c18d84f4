import DataSchema.Number.Shortest
import DataSchema.Text.DecimalDigit
import DataSchema.Text.Blank

set_option autoImplicit false

/-!
# Numerals

Reading numbers from text. A *numeral* has an optional sign, digits with an optional point, and
an optional exponent; its digits may come from any script. It denotes `± coefficient · 10 ^ power`
exactly, and is turned into a whole number or a double only afterwards.

## Main definitions

* `DataSchema.Numeral` — the exact meaning of a numeral.
* `DataSchema.Numeral.ofText?` — reading a numeral that is the whole text.
* `DataSchema.Numeral.toInt?` — the whole number that a numeral denotes, if it denotes one.
* `DataSchema.Numeral.toBinary64` — the nearest double.
* `DataSchema.readInteger?` — reading a whole number in a given base.
-/

namespace DataSchema

/-- The whole number written by decimal digits, most significant first. -/
def digitsValue (ds : List Char) : Nat :=
  ds.foldl (fun n c => n * 10 + (decimalDigit? c).getD 0) 0

/-- The number `± coefficient · 10 ^ power`. -/
structure Numeral where
  /-- Whether the number carries a minus sign. -/
  negative : Bool
  /-- The digits before and after the point, read as one whole number. -/
  coefficient : Nat
  /-- The power of ten of the last digit. -/
  power : Int
  deriving DecidableEq, Repr

/-- An optional sign at the start of a text: whether it is a minus, and the rest. -/
def takeSign : List Char → Bool × List Char
  | '-' :: cs => (true, cs)
  | '+' :: cs => (false, cs)
  | cs => (false, cs)

/-- The decimal digits at the start of a text, and the rest. -/
def takeDigits (cs : List Char) : List Char × List Char :=
  (cs.takeWhile isDecimalDigit, cs.dropWhile isDecimalDigit)

namespace Numeral

/-- An exponent that ends the text: `e` or `E`, an optional sign, digits. No text is no exponent. -/
def exponent? : List Char → Option Int
  | [] => some 0
  | c :: cs =>
    if c = 'e' ∨ c = 'E' then
      let (negative, rest) := takeSign cs
      let (ds, rest) := takeDigits rest
      if ds.isEmpty || !rest.isEmpty then none
      else some (if negative then -(digitsValue ds : Int) else digitsValue ds)
    else none

/-- Reads a numeral that is the whole text: digits, at least one before or after the point. -/
def ofChars? (cs : List Char) : Option Numeral :=
  let (negative, rest) := takeSign cs
  let (whole, rest) := takeDigits rest
  let (fraction, rest) :=
    match rest with
    | '.' :: rest => takeDigits rest
    | rest => ([], rest)
  if whole.isEmpty && fraction.isEmpty then none
  else (exponent? rest).map fun e =>
    ⟨negative, digitsValue (whole ++ fraction), e - fraction.length⟩

/-- Reads a numeral that is the whole text. -/
def ofText? (s : String) : Option Numeral := ofChars? s.toList

/-- The greatest power of ten of a first digit that is worked with. -/
def greatestPower : Int := 999999999999999999

/-- The least power of ten of a last digit that is worked with. -/
def leastPower : Int := -1999999999999999997

/-- Whether the powers of ten of the first and the last digit lie in the range of exact work. -/
def inRange (n : Numeral) : Bool :=
  decide (n.power + decimalLength n.coefficient - 1 ≤ greatestPower) &&
    decide (leastPower ≤ n.power)

/-- The whole number that a numeral denotes, if it denotes one. -/
def toInt? (n : Numeral) : Option Int :=
  let signed (m : Nat) : Int := if n.negative then -(m : Int) else m
  if n.coefficient = 0 then some 0
  else if 0 ≤ n.power then some (signed (n.coefficient * Nat.pow 10 n.power.natAbs))
  else if decimalLength n.coefficient < n.power.natAbs then none
  else if n.coefficient % Nat.pow 10 n.power.natAbs = 0 then
    some (signed (n.coefficient / Nat.pow 10 n.power.natAbs))
  else none

/-- The double nearest to a numeral. Beyond `10 ^ 400` that is an infinity, and below
`10 ^ (-400)` it is zero, without computing the power. -/
def toBinary64 (n : Numeral) : Binary64 :=
  let lead := n.power + decimalLength n.coefficient
  if n.coefficient = 0 ∨ lead < -400 then Binary64.ofRatio n.negative 0 1
  else if 400 < lead then .infinity n.negative
  else if 0 ≤ n.power then
    Binary64.ofRatio n.negative (n.coefficient * Nat.pow 10 n.power.natAbs) 1
  else Binary64.ofRatio n.negative n.coefficient (Nat.pow 10 n.power.natAbs)

end Numeral

/-- Digits of a base with at most one low line between two of them. -/
def baseDigits? (base : Nat) : List Char → Option (List Nat)
  | [] => none
  | [c] => (baseDigit? base c).map ([·])
  | c :: '_' :: cs => do
    let d ← baseDigit? base c
    let ds ← baseDigits? base cs
    return d :: ds
  | c :: cs => do
    let d ← baseDigit? base c
    let ds ← baseDigits? base cs
    return d :: ds

/-- The letter after a leading zero that announces a base. -/
def baseMark : Nat → Option Char
  | 2 => some 'b'
  | 8 => some 'o'
  | 16 => some 'x'
  | _ => none

/-- Drops a leading mark of the base, with one low line after it. -/
def dropBaseMark (base : Nat) : List Char → List Char
  | '0' :: m :: cs =>
    if baseMark base == some m.toLower then
      match cs with
      | '_' :: cs => cs
      | cs => cs
    else '0' :: m :: cs
  | cs => cs

/-- Reads a whole number in a base: blanks at the ends, a sign, a mark of the base, and digits
with single low lines between them. -/
def readInteger? (base : Nat) (s : String) : Option Int :=
  let (negative, rest) := takeSign (trimBy isBlank s.toList)
  (baseDigits? base (dropBaseMark base rest)).map fun ds =>
    let n : Nat := ds.foldl (fun n d => n * base + d) 0
    if negative then -(n : Int) else n

end DataSchema
