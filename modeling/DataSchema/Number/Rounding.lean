set_option autoImplicit false

/-!
# Rounding a quotient to the nearest whole number

The quotient of two natural numbers, rounded to the nearest whole number; a quotient that lies
halfway between two goes to the even one. All rounding of the library is stated with it.

## Main definitions

* `DataSchema.roundDiv` — the nearest whole number to `a / b`, ties to even.

## Main results

* `DataSchema.roundDiv_le`, `DataSchema.le_roundDiv` — bounds on the quotient are bounds on its
  rounding.
* `DataSchema.roundDiv_mul_self` — a quotient that is whole is its own rounding.
-/

namespace DataSchema

/-- The whole number nearest to `a / b`; halfway cases go to the even neighbour. -/
def roundDiv (a b : Nat) : Nat :=
  let q := a / b
  let r := 2 * (a % b)
  if r < b then q
  else if b < r then q + 1
  else if q % 2 = 0 then q else q + 1

/-- A quotient at most `n` rounds to at most `n`. -/
theorem roundDiv_le {a b n : Nat} (hb : 0 < b) (h : a ≤ n * b) : roundDiv a b ≤ n := by
  have hd := Nat.div_add_mod a b
  have hm := Nat.mod_lt a hb
  have hq : a / b ≤ n := Nat.div_le_of_le_mul (by rw [Nat.mul_comm]; exact h)
  unfold roundDiv
  by_cases hlt : a / b < n
  · dsimp only; split <;> (try split) <;> (try split) <;> omega
  · have heq : a / b = n := by omega
    have hzero : a % b = 0 := by
      rw [heq, Nat.mul_comm] at hd
      omega
    simp [heq, hzero, hb]

/-- A quotient at least `n` rounds to at least `n`. -/
theorem le_roundDiv {a b n : Nat} (hb : 0 < b) (h : n * b ≤ a) : n ≤ roundDiv a b := by
  have hq : n ≤ a / b := (Nat.le_div_iff_mul_le hb).2 h
  unfold roundDiv
  dsimp only
  split <;> (try split) <;> (try split) <;> omega

/-- A whole quotient is its own rounding. -/
theorem roundDiv_mul_self {b : Nat} (hb : 0 < b) (n : Nat) : roundDiv (n * b) b = n :=
  Nat.le_antisymm (roundDiv_le hb (Nat.le_refl _)) (le_roundDiv hb (Nat.le_refl _))

end DataSchema
