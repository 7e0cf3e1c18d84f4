import DataSchema.Number.Shortest

set_option autoImplicit false

/-!
# Writing a double

How the digits of a double are laid out: which powers of ten are written positionally, how an
exponent looks, and the words for the numbers that have no digits. The layout is a record, so
that a writer is the digits of the number and one value of it.

## Main definitions

* `DataSchema.Notation` — the decisions of one way of writing numbers.
* `DataSchema.Notation.write` — a number in that way.
* `DataSchema.plainNotation` — the way that values are shown in messages.
* `DataSchema.jsonNotation` — the way that reports are written.
-/

namespace DataSchema

/-- The decisions of a way of writing doubles. -/
structure Notation where
  /-- The least power of ten of a first digit that is written positionally. -/
  leastPositional : Int
  /-- The first power of ten of a first digit that needs an exponent. -/
  firstScaled : Int
  /-- The least number of digits of an exponent. -/
  exponentWidth : Nat
  /-- The word for an infinity. -/
  infinityWord : String
  /-- The word for not-a-number. -/
  nanWord : String

/-- The fewest digits that read back; positional from `1e-4` to below `1e16`, with a point
always; an exponent has a sign and at least two digits. -/
def plainNotation : Notation := ⟨-4, 16, 2, "inf", "nan"⟩

/-- Like the plain notation, with capitalised words for the numbers without digits. -/
def jsonNotation : Notation := { plainNotation with infinityWord := "Infinity", nanWord := "NaN" }

namespace Notation

/-- The digits of a magnitude laid out. -/
def layout (n : Notation) (d : Decimal) : List Char :=
  let ds := d.digits
  let e := d.exponent
  if n.leastPositional ≤ e ∧ e < n.firstScaled then
    if e < 0 then '0' :: '.' :: (List.replicate (e.natAbs - 1) '0' ++ ds)
    else
      let whole := e.natAbs + 1
      let padded := ds ++ List.replicate (whole - ds.length) '0'
      let fraction := padded.drop whole
      padded.take whole ++ '.' :: (if fraction.isEmpty then ['0'] else fraction)
  else
    let fraction := ds.drop 1
    let exponent := Nat.toDigits 10 e.natAbs
    ds.take 1 ++ (if fraction.isEmpty then [] else '.' :: fraction) ++
      'e' :: (if e < 0 then '-' else '+') ::
        (List.replicate (n.exponentWidth - exponent.length) '0' ++ exponent)

/-- A number written in this notation. -/
def write (n : Notation) : Binary64 → String
  | .nan => n.nanWord
  | .infinity negative => if negative then "-" ++ n.infinityWord else n.infinityWord
  | .finite negative units _ =>
    let magnitude := if units = 0 then n.layout ⟨0, 0⟩ else n.layout (Binary64.shortest units)
    String.ofList (if negative then '-' :: magnitude else magnitude)

end Notation

end DataSchema
