import DataSchema.Number.Binary64

set_option autoImplicit false

/-!
# Numbers

A number of a document is a whole number of any size or a double. Numbers of the two kinds are
compared exactly: both are counts of units of `2 ^ (-1074)`, and the infinities lie at the ends.
Not-a-number stands in no relation to any number.

## Main definitions

* `DataSchema.Number` — whole numbers and doubles.
* `DataSchema.Number.equal`, `less`, `atMost` — exact comparison.
* `DataSchema.Number.quotient` — division, rounded to a double.
* `DataSchema.Number.isMultiple` — whether a quotient is close to a whole number.
-/

namespace DataSchema

/-- A number: whole and of any size, or a double. -/
inductive Number
  /-- A whole number. -/
  | int (n : Int)
  /-- A double. -/
  | float (x : Binary64)
  deriving DecidableEq

/-- A place on the line of units with its two ends. -/
inductive Extent
  /-- Below every finite number. -/
  | bottom
  /-- A finite number, in units. -/
  | at (units : Int)
  /-- Above every finite number. -/
  | top
  deriving DecidableEq

namespace Extent

/-- The strict order of the line. -/
def less : Extent → Extent → Bool
  | bottom, bottom | top, _ | _, bottom => false
  | bottom, _ | _, top => true
  | .at a, .at b => a < b

end Extent

/-- Why a computation with numbers has no result. -/
inductive ArithmeticFault
  /-- The result, or an operand on its way to a double, is too large. -/
  | tooLarge
  /-- Not-a-number has no nearest whole number. -/
  | notANumber
  deriving DecidableEq, Repr

namespace Number

/-- The place of a number on the line; not-a-number has none. -/
def extent? : Number → Option Extent
  | int n => some (.at (n * Binary64.one))
  | float .nan => none
  | float (.infinity negative) => some (if negative then .bottom else .top)
  | float (.finite negative units _) => some (.at (if negative then -(units : Int) else units))

/-- Numerical equality. -/
def equal (a b : Number) : Bool :=
  match a.extent?, b.extent? with
  | some x, some y => x == y
  | _, _ => false

/-- Whether one number is smaller than another. -/
def less (a b : Number) : Bool :=
  match a.extent?, b.extent? with
  | some x, some y => x.less y
  | _, _ => false

/-- Whether one number is smaller than another or equal to it. -/
def atMost (a b : Number) : Bool := a.less b || a.equal b

/-- Whether a number is zero. -/
def isZero : Number → Bool
  | int n => n == 0
  | float (.finite _ units _) => units == 0
  | float _ => false

/-- A rounded double, unless the rounding overflowed. -/
def unlessTooLarge : Binary64 → Except ArithmeticFault Binary64
  | .infinity _ => .error .tooLarge
  | x => .ok x

/-- The double nearest to a number, unless it is too large. -/
def toBinary64 : Number → Except ArithmeticFault Binary64
  | int n => unlessTooLarge (Binary64.ofInt n)
  | float x => .ok x

/-- The quotient of two numbers as a double. Two whole numbers are divided exactly and rounded
once; otherwise both become doubles first. -/
def quotient : Number → Number → Except ArithmeticFault Binary64
  | int a, int b =>
    unlessTooLarge (Binary64.ofRatio (decide (a < 0) != decide (b < 0)) a.natAbs b.natAbs)
  | a, b => do
    let x ← a.toBinary64
    let y ← b.toBinary64
    return x.div y

/-- How far, in units, a quotient may lie from a whole number and count as one: the double
nearest to a thousand-millionth. -/
def tolerance : Nat := roundUnits Binary64.one (Nat.pow 10 9)

/-- Whether a double lies within the tolerance of its nearest whole number. -/
def isNearlyWhole (q : Binary64) : Except ArithmeticFault Bool :=
  match q with
  | .nan => .error .notANumber
  | .infinity _ => .error .tooLarge
  | .finite _ units _ =>
    let nearest := roundDiv units Binary64.one * Binary64.one
    .ok (decide ((units - nearest) + (nearest - units) ≤ tolerance))

/-- Whether a number is a multiple of a nonzero one, up to the tolerance. -/
def isMultiple (value divisor : Number) : Except ArithmeticFault Bool := do
  isNearlyWhole (← value.quotient divisor)

end Number

end DataSchema
