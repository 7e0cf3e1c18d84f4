import DataSchema.Number.Binary64

set_option autoImplicit false

/-!
# Shortest decimal digits

A finite positive double is read back from any decimal number that lies closer to it than to its
neighbours. The shortest digits of the number are the fewest digits of such a decimal number;
of two decimal numbers with that many digits, the nearer is taken, and of two equally near ones
the one whose last digit is even.

## Main definitions

* `DataSchema.Decimal` — decimal digits with the power of ten of the first.
* `DataSchema.Binary64.shortest` — the shortest digits of a count of units.
-/

namespace DataSchema

/-- The number of digits of `n` in base ten; zero has one. -/
def decimalLength (n : Nat) : Nat := (Nat.toDigits 10 n).length

/-- A positive decimal number: the whole number `coefficient`, whose first digit stands for
`10 ^ exponent`. -/
structure Decimal where
  /-- The digits, read as a whole number. -/
  coefficient : Nat
  /-- The power of ten of the first digit. -/
  exponent : Int
  deriving DecidableEq, Repr

namespace Binary64

/-- The power of ten of the first digit of the positive quotient `num / den`. -/
def leadingExponent (num den : Nat) : Int :=
  if den ≤ num then (decimalLength (num / den) : Int) - 1
  else
    let d := decimalLength (den / num)
    if den ≤ num * Nat.pow 10 (d - 1) then 1 - (d : Int) else -(d : Int)

/-- The interval of numbers that are read back as `units`, in quarters of a unit. -/
structure Neighbourhood where
  /-- The lower end. -/
  low : Nat
  /-- The upper end. -/
  high : Nat
  /-- Whether the ends belong to the interval. -/
  closed : Bool

/-- The numbers that are read back as `units`. The gap below a power of two is half the gap
above it; the ends go to the neighbour with the even last digit. -/
def neighbourhood (units : Nat) : Neighbourhood :=
  let step := Nat.pow 2 (units.log2 - 52)
  let low := if units = Nat.pow 2 units.log2 ∧ 1 < step then step else 2 * step
  ⟨4 * units - low, 4 * units + 2 * step, units / step % 2 = 0⟩

/-- Whether `num / den` units lie in the neighbourhood. -/
def Neighbourhood.mem (n : Neighbourhood) (num den : Nat) : Bool :=
  if n.closed then n.low * den ≤ 4 * num && 4 * num ≤ n.high * den
  else n.low * den < 4 * num && 4 * num < n.high * den

/-- The decimal number with `places + 1` digits nearest to `units`, if it is read back. -/
def nearestDecimal? (units : Nat) (places : Nat) : Option Decimal :=
  let e := leadingExponent units one
  let power := e - places
  let scale := Nat.pow 10 power.natAbs
  -- `units / one` in multiples of `10 ^ power` is `num / den`
  let num := if power < 0 then units * scale else units
  let den := if power < 0 then one else one * scale
  let n := neighbourhood units
  let reads (c : Nat) : Bool :=
    if power < 0 then n.mem (c * one) scale else n.mem (c * one * scale) 1
  let c := num / den
  let nearest := roundDiv num den
  let other := if nearest = c then c + 1 else c
  let hit? := if reads nearest then some nearest else if reads other then some other else none
  hit?.map fun c => ⟨c, if c = Nat.pow 10 (places + 1) then e + 1 else e⟩

/-- The shortest digits of a positive count of units. Seventeen digits are always enough. -/
def shortest (units : Nat) : Decimal :=
  ((List.range 17).findSome? (nearestDecimal? units)).getD ⟨0, 0⟩

end Binary64

/-- The digits of a decimal number, without trailing zeros. -/
def Decimal.digits (d : Decimal) : List Char :=
  let ds := Nat.toDigits 10 d.coefficient
  let kept := (ds.reverse.dropWhile (· = '0')).reverse
  if kept.isEmpty then ['0'] else kept

end DataSchema
