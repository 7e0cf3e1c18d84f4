import DataSchema.Number.Rounding

set_option autoImplicit false

/-!
# Double precision numbers

The numbers of the binary64 interchange format, as exact data. A finite number is a sign and a
count of *units*, the unit being `2 ^ (-1074)`, the smallest positive number of the format. A
count is representable when at most 53 of its leading binary digits are in use; every operation
computes the exact result and rounds it once, to nearest with ties to even.

## Main definitions

* `DataSchema.Binary64` — not-a-number, the two infinities, and the finite numbers.
* `DataSchema.Binary64.ofRatio` — the number nearest to a quotient of natural numbers.
* `DataSchema.Binary64.add`, `mul`, `div` — exact arithmetic, rounded once.

## Main results

* `DataSchema.representable_roundUnits` — rounding always lands on a representable count.
-/

namespace DataSchema

/-- The number of units in one. -/
def Binary64.one : Nat := Nat.pow 2 1074

/-- The least count of units that is too large to be finite. -/
def Binary64.overflow : Nat := Nat.pow 2 2098

/-- There are units in one. -/
theorem Binary64.one_pos : 0 < Binary64.one := by decide +kernel

/-- A count of units with at most 53 significant binary digits, below the overflow threshold. -/
def Representable (units : Nat) : Prop :=
  units < Binary64.overflow ∧ Nat.pow 2 (units.log2 - 52) ∣ units

instance (units : Nat) : Decidable (Representable units) :=
  inferInstanceAs (Decidable (_ ∧ _))

/-- A binary64 number. Zero has two signs; not-a-number has one form. -/
inductive Binary64
  /-- Not-a-number. -/
  | nan
  /-- An infinity. -/
  | infinity (negative : Bool)
  /-- The number `± units · 2 ^ (-1074)`. -/
  | finite (negative : Bool) (units : Nat) (representable : Representable units)
  deriving DecidableEq

/-- The quotient `num / den` of units, rounded to 53 significant binary digits. -/
def roundUnits (num den : Nat) : Nat :=
  let step := Nat.pow 2 ((num / den).log2 - 52)
  roundDiv num (den * step) * step

/-- Up to the carry into a 54th digit, a rounded count has 53 significant digits. -/
theorem two_pow_dvd_roundUnits (num den : Nat) (hden : 0 < den) :
    Nat.pow 2 ((roundUnits num den).log2 - 52) ∣ roundUnits num den := by
  simp only [roundUnits, Nat.pow_eq]
  generalize hp : (num / den).log2 - 52 = p
  have hpow : 0 < 2 ^ p := Nat.two_pow_pos p
  have hlt : num / den < 2 ^ ((num / den).log2 + 1) := Nat.lt_log2_self
  have hle : num ≤ 2 ^ 53 * (den * 2 ^ p) := by
    have h1 : num < 2 ^ ((num / den).log2 + 1) * den :=
      (Nat.div_lt_iff_lt_mul hden).1 hlt
    have h2 : 2 ^ ((num / den).log2 + 1) ≤ 2 ^ (53 + p) :=
      Nat.pow_le_pow_right (by decide) (by omega)
    have h3 : 2 ^ ((num / den).log2 + 1) * den ≤ 2 ^ (53 + p) * den :=
      Nat.mul_le_mul_right den h2
    have h4 : 2 ^ (53 + p) * den = 2 ^ 53 * (den * 2 ^ p) := by
      rw [Nat.pow_add, Nat.mul_assoc, Nat.mul_comm (2 ^ p) den]
    omega
  have hr := roundDiv_le (Nat.mul_pos hden hpow) hle
  generalize roundDiv num (den * 2 ^ p) = r at hr ⊢
  rcases Nat.lt_or_ge r (2 ^ 53) with hsmall | hbig
  · by_cases hr0 : r = 0
    · simp [hr0]
    · have hlog : (r * 2 ^ p).log2 < 53 + p := by
        rw [Nat.log2_lt (Nat.mul_ne_zero hr0 (Nat.ne_of_gt hpow)), Nat.pow_add]
        exact Nat.mul_lt_mul_of_pos_right hsmall hpow
      exact Nat.dvd_trans (Nat.pow_dvd_pow 2 (by omega)) (Nat.dvd_mul_left _ _)
  · have hreq : r = 2 ^ 53 := Nat.le_antisymm hr hbig
    rw [hreq, ← Nat.pow_add, Nat.log2_two_pow]
    exact Nat.pow_dvd_pow 2 (by omega)

/-- A rounded count below the overflow threshold is representable. -/
theorem representable_roundUnits {num den : Nat} (hden : 0 < den)
    (h : roundUnits num den < Binary64.overflow) : Representable (roundUnits num den) :=
  ⟨h, two_pow_dvd_roundUnits num den hden⟩

namespace Binary64

/-- The number nearest to `± num / den` units, infinite when that overflows. -/
def ofUnits (negative : Bool) (num den : Nat) (hden : 0 < den) : Binary64 :=
  if h : roundUnits num den < overflow then
    .finite negative (roundUnits num den) (representable_roundUnits hden h)
  else .infinity negative

/-- The number nearest to `± num / den`; a zero denominator gives an infinity. -/
def ofRatio (negative : Bool) (num den : Nat) : Binary64 :=
  if h : 0 < den then ofUnits negative (num * one) den h else .infinity negative

/-- The number nearest to a whole number. -/
def ofInt (n : Int) : Binary64 :=
  ofUnits (decide (n < 0)) (n.natAbs * one) 1 Nat.one_pos

/-- Whether a number is finite. -/
def isFinite : Binary64 → Bool
  | finite .. => true
  | _ => false

/-- Whether a number is not-a-number. -/
def isNaN : Binary64 → Bool
  | nan => true
  | _ => false

/-- The signed count of units of a finite number. -/
def units? : Binary64 → Option Int
  | finite negative units _ => some (if negative then -(units : Int) else units)
  | _ => none

/-- The sign flipped. -/
def neg : Binary64 → Binary64
  | nan => nan
  | infinity s => infinity (!s)
  | finite s u h => finite (!s) u h

/-- The sum of two numbers, rounded once. An exact zero is positive unless both terms are
negative zeros. -/
def add : Binary64 → Binary64 → Binary64
  | nan, _ | _, nan => nan
  | infinity s, infinity t => if s = t then infinity s else nan
  | infinity s, finite .. => infinity s
  | finite .., infinity t => infinity t
  | finite s u _, finite t v _ =>
    let sum : Int := (if s then -(u : Int) else u) + (if t then -(v : Int) else v)
    ofUnits (if sum = 0 then s && t else decide (sum < 0)) sum.natAbs 1 Nat.one_pos

/-- The product of two numbers, rounded once. -/
def mul : Binary64 → Binary64 → Binary64
  | nan, _ | _, nan => nan
  | infinity s, infinity t => infinity (s != t)
  | infinity s, finite t v _ => if v = 0 then nan else infinity (s != t)
  | finite s u _, infinity t => if u = 0 then nan else infinity (s != t)
  | finite s u _, finite t v _ => ofUnits (s != t) (u * v) one one_pos

/-- The quotient of two numbers, rounded once. -/
def div : Binary64 → Binary64 → Binary64
  | nan, _ | _, nan => nan
  | infinity _, infinity _ => nan
  | infinity s, finite t _ _ => infinity (s != t)
  | finite s _ _, infinity t => ofUnits (s != t) 0 1 Nat.one_pos
  | finite s u _, finite t v _ =>
    if h : 0 < v then ofUnits (s != t) (u * one) v h
    else if u = 0 then nan else infinity (s != t)

/-- The whole number that a finite number is, if it is one. -/
def toInt? (x : Binary64) : Option Int :=
  match x.units? with
  | some u => if u % one = 0 then some (u / one) else none
  | none => none

/-- The nearest whole number of a finite number, ties to even. -/
def round? (x : Binary64) : Option Int :=
  match x with
  | finite s u _ =>
    let n : Int := roundDiv u one
    some (if s then -n else n)
  | _ => none

end Binary64

end DataSchema
