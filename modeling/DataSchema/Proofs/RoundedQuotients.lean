import Mathlib.Data.Nat.Dist
import Mathlib.Data.Nat.Log
import Mathlib.Order.Basic
import Mathlib.Tactic.Linarith
import Mathlib.Tactic.Ring
import DataSchema.Number.Binary64

set_option autoImplicit false

/-!
# Rounded quotients

How a quotient lies to what it is rounded to. A quotient of whole numbers is rounded to at most a
whole number exactly if it is at most halfway to the next, a tie counting where the number is even;
the double nearest to a quotient is its rounding to a multiple of a power of two. So it is exact
where the quotient has few enough binary digits, and finite below the middle between the greatest
double and the power of two after it.

## Main definitions

* `DataSchema.Binary64.step` — how far the doubles around a quotient lie apart, in units.
* `DataSchema.Binary64.ceiling` — the least magnitude that is rounded to an infinity.

## Main results

* `DataSchema.roundDiv_le_iff` — when a quotient is rounded to at most a whole number.
* `DataSchema.dist_roundDiv_le` — no multiple is nearer than the one that a quotient rounds to.
* `DataSchema.roundUnits_mul_right`, `DataSchema.roundUnits_of_dvd` — the rounding depends on the
  quotient alone, and keeps what is a multiple of its step.
* `DataSchema.Binary64.ofRatio_isFinite` — quotients that are rounded to a finite double.
-/

namespace DataSchema

/-! ## Rounding to whole numbers -/

/-- **A quotient is rounded to at most a whole number** if it is less than halfway to the next, or
halfway and the number is even. -/
lemma roundDiv_le_iff {a b n : Nat} (hb : 0 < b) :
    roundDiv a b ≤ n ↔ 2 * a < (2 * n + 1) * b ∨ n % 2 = 0 ∧ 2 * a = (2 * n + 1) * b := by
  have hd := Nat.div_add_mod a b
  have hm := Nat.mod_lt a hb
  have hexpand : (2 * n + 1) * b = 2 * (n * b) + b := by ring
  rw [hexpand]
  rcases lt_trichotomy (a / b) n with hlt | heq | hgt
  · have hle : b * (a / b) + b ≤ n * b := by
      calc b * (a / b) + b = (a / b + 1) * b := by ring
        _ ≤ n * b := Nat.mul_le_mul_right b hlt
    have hround : roundDiv a b ≤ n := roundDiv_le hb (by omega)
    exact iff_of_true hround (.inl (by omega))
  · have hmul : b * (a / b) = n * b := by rw [heq, Nat.mul_comm]
    unfold roundDiv
    dsimp only
    rw [heq]
    split
    · exact iff_of_true le_rfl (.inl (by omega))
    · split
      · exact iff_of_false (by omega) (by omega)
      · split
        next heven => exact iff_of_true le_rfl (.inr ⟨heven, by omega⟩)
        next hodd => exact iff_of_false (by omega) (by omega)
  · have hle : n * b + b ≤ b * (a / b) := by
      calc n * b + b = (n + 1) * b := by ring
        _ ≤ a / b * b := Nat.mul_le_mul_right b hgt
        _ = b * (a / b) := Nat.mul_comm _ _
    have hround : n + 1 ≤ roundDiv a b := le_roundDiv hb (by rw [Nat.add_mul]; omega)
    exact iff_of_false (by omega) (by omega)

/-- The rounding of a quotient depends on the quotient alone. -/
lemma roundDiv_mul_right {a b k : Nat} (hb : 0 < b) (hk : 0 < k) :
    roundDiv (a * k) (b * k) = roundDiv a b := by
  refine eq_of_forall_ge_iff fun n => ?_
  rw [roundDiv_le_iff hb, roundDiv_le_iff (Nat.mul_pos hb hk), ← Nat.mul_assoc, ← Nat.mul_assoc,
    Nat.mul_lt_mul_right hk, Nat.mul_left_inj hk.ne']

/-- A quotient lies at most halfway from its rounding. -/
lemma two_mul_dist_roundDiv_le {a b : Nat} (hb : 0 < b) :
    2 * Nat.dist a (roundDiv a b * b) ≤ b := by
  have hupper := (roundDiv_le_iff (n := roundDiv a b) hb).1 le_rfl
  have hlower := mt (roundDiv_le_iff (a := a) (n := roundDiv a b - 1) hb).2
  have hexpand : (2 * roundDiv a b + 1) * b = 2 * (roundDiv a b * b) + b := by ring
  rw [hexpand] at hupper
  unfold Nat.dist
  cases hround : roundDiv a b with
  | zero =>
    rw [hround] at hupper
    omega
  | succ r =>
    have hexpand' : (2 * r + 1) * b + b = 2 * ((r + 1) * b) := by ring
    rw [hround, Nat.add_sub_cancel] at hlower
    rw [hround] at hupper
    have hlower := hlower (by omega)
    omega

/-- **No multiple is nearer** to a number than the one that its quotient is rounded to. -/
lemma dist_roundDiv_le {a b : Nat} (hb : 0 < b) (n : Nat) :
    Nat.dist a (roundDiv a b * b) ≤ Nat.dist a (n * b) := by
  have hhalf := two_mul_dist_roundDiv_le (a := a) hb
  rcases eq_or_ne n (roundDiv a b) with rfl | hne
  · exact le_rfl
  · have hapart : b ≤ Nat.dist (n * b) (roundDiv a b * b) := by
      rw [Nat.dist_mul_right]
      exact Nat.le_mul_of_pos_left b (Nat.dist_pos_of_ne hne)
    have htriangle := Nat.dist.triangle_inequality (n * b) a (roundDiv a b * b)
    rw [Nat.dist_comm (n * b) a] at htriangle
    omega

/-! ## Rounding to doubles -/

/-- How far the doubles around a quotient of units lie apart, in units. -/
def Binary64.step (num den : Nat) : Nat := 2 ^ ((num / den).log2 - 52)

/-- Doubles lie apart. -/
lemma Binary64.step_pos (num den : Nat) : 0 < step num den := Nat.two_pow_pos _

/-- A rounded count of units is a multiple of the step around it. -/
lemma roundUnits_eq (num den : Nat) : roundUnits num den =
    roundDiv num (den * Binary64.step num den) * Binary64.step num den := rfl

/-- The rounding of a count of units depends on the quotient alone. -/
lemma roundUnits_mul_right {num den k : Nat} (hden : 0 < den) (hk : 0 < k) :
    roundUnits (num * k) (den * k) = roundUnits num den := by
  have hstep : Binary64.step (num * k) (den * k) = Binary64.step num den := by
    rw [Binary64.step, Binary64.step, Nat.mul_div_mul_right num den hk]
  rw [roundUnits_eq, roundUnits_eq, hstep, Nat.mul_right_comm den k,
    roundDiv_mul_right (Nat.mul_pos hden (Binary64.step_pos num den)) hk]

/-- A count of units that is a multiple of its step is kept. -/
lemma roundUnits_of_dvd {n : Nat} (h : Binary64.step n 1 ∣ n) : roundUnits n 1 = n := by
  obtain ⟨c, hc⟩ := h
  have hpos := Binary64.step_pos n 1
  rw [roundUnits_eq]
  generalize Binary64.step n 1 = t at hc hpos
  rw [Nat.one_mul, hc, Nat.mul_comm t c, roundDiv_mul_self hpos]

/-- A quotient below a power of two is rounded to at most that power. -/
lemma roundUnits_le_two_pow {num den : Nat} (hden : 0 < den) {k : Nat}
    (h : num < 2 ^ (52 + k) * den) : roundUnits num den ≤ 2 ^ (52 + k) := by
  have hlog : (num / den).log2 - 52 ≤ k := by
    rcases Nat.eq_zero_or_pos (num / den) with hzero | hpos
    · simp [hzero]
    · have := (Nat.log2_lt hpos.ne').2 ((Nat.div_lt_iff_lt_mul hden).2 h)
      omega
  have hround : roundDiv num (den * Binary64.step num den) ≤
      2 ^ (52 + k - ((num / den).log2 - 52)) := by
    refine roundDiv_le (Nat.mul_pos hden (Binary64.step_pos num den)) ?_
    rw [Binary64.step, Nat.mul_left_comm, ← Nat.pow_add, Nat.sub_add_cancel (by omega),
      Nat.mul_comm]
    exact h.le
  calc roundUnits num den
      ≤ 2 ^ (52 + k - ((num / den).log2 - 52)) * Binary64.step num den :=
        Nat.mul_le_mul_right _ hround
    _ = 2 ^ (52 + k) := by
        rw [Binary64.step, ← Nat.pow_add, Nat.sub_add_cancel (by omega)]

/-- A quotient that is no less than a power of two is rounded to no less than that power. -/
lemma two_pow_le_roundUnits {num den : Nat} (hden : 0 < den) {k : Nat}
    (h : 2 ^ (52 + k) * den ≤ num) : 2 ^ (52 + k) ≤ roundUnits num den := by
  have hquotient : 2 ^ (52 + k) ≤ num / den := (Nat.le_div_iff_mul_le hden).2 h
  have hne : num / den ≠ 0 := by have := Nat.two_pow_pos (52 + k); omega
  have hlog : 52 + k ≤ (num / den).log2 := (Nat.le_log2 hne).2 hquotient
  have hround : 2 ^ 52 ≤ roundDiv num (den * Binary64.step num den) := by
    refine le_roundDiv (Nat.mul_pos hden (Binary64.step_pos num den)) ?_
    calc 2 ^ 52 * (den * Binary64.step num den)
        = 2 ^ (52 + ((num / den).log2 - 52)) * den := by
          rw [Binary64.step, Nat.pow_add, Nat.mul_assoc, Nat.mul_comm den]
      _ = 2 ^ (num / den).log2 * den := by rw [Nat.add_sub_cancel' (by omega)]
      _ ≤ num / den * den := Nat.mul_le_mul_right den (Nat.log2_self_le hne)
      _ ≤ num := Nat.div_mul_le_self num den
  calc 2 ^ (52 + k) ≤ 2 ^ (52 + ((num / den).log2 - 52)) :=
        Nat.pow_le_pow_right (by decide) (by omega)
    _ = 2 ^ 52 * Binary64.step num den := by rw [Binary64.step, Nat.pow_add]
    _ ≤ roundUnits num den := Nat.mul_le_mul_right _ hround

/-- **A quotient is rounded below a power of two** if it is below the middle between that power and
the double before it. -/
lemma roundUnits_lt_two_pow_iff {num den : Nat} (hden : 0 < den) (k : Nat) :
    roundUnits num den < 2 ^ (53 + k) ↔ 2 * num < (2 ^ 54 - 1) * (2 ^ k * den) := by
  have hsplit : ∀ j, 2 ^ (j + k) * den = 2 ^ j * (2 ^ k * den) := fun j => by
    rw [Nat.pow_add, Nat.mul_assoc]
  rcases Nat.lt_or_ge num (2 ^ (52 + k) * den) with hsmall | hbig
  · -- below the binade: the rounding does not leave it
    have hle := roundUnits_le_two_pow hden hsmall
    have hlt : 2 ^ (52 + k) < 2 ^ (53 + k) := Nat.pow_lt_pow_right (by decide) (by omega)
    rw [hsplit] at hsmall
    exact iff_of_true (by omega) (by omega)
  · rcases Nat.lt_or_ge num (2 ^ (53 + k) * den) with hin | hout
    · -- in the binade: the step is that of the binade
      have hpos : num / den ≠ 0 := by
        have := (Nat.le_div_iff_mul_le hden).2 hbig
        have := Nat.two_pow_pos (52 + k)
        omega
      have hlog : (num / den).log2 = 52 + k :=
        (Nat.log2_eq_iff hpos).2 ⟨(Nat.le_div_iff_mul_le hden).2 hbig,
          by rwa [Nat.add_right_comm, Nat.div_lt_iff_lt_mul hden]⟩
      have hstep : Binary64.step num den = 2 ^ k := by
        rw [Binary64.step, hlog, Nat.add_sub_cancel_left]
      rw [roundUnits_eq, hstep, Nat.pow_add, Nat.mul_lt_mul_right (Nat.two_pow_pos k),
        Nat.mul_comm (2 ^ k) den, ← Nat.le_sub_one_iff_lt (by decide),
        roundDiv_le_iff (Nat.mul_pos hden (Nat.two_pow_pos k))]
      norm_num
    · -- above the binade: the rounding stays above
      have hshift : 53 + k = 52 + (k + 1) := by omega
      have hle : 2 ^ (53 + k) ≤ roundUnits num den := by
        rw [hshift] at hout ⊢
        exact two_pow_le_roundUnits hden hout
      rw [hsplit] at hout
      have hpos : 0 < 2 ^ k * den := Nat.mul_pos (Nat.two_pow_pos k) hden
      exact iff_of_false (by omega) (by omega)

/-- The least magnitude that is rounded to an infinity: the middle between the greatest double and
the power of two after it, which is `2 ^ 1024 - 2 ^ 970`. -/
def Binary64.ceiling : Nat := (2 ^ 54 - 1) * 2 ^ 970

namespace Binary64

variable {num den : Nat}

/-- A quotient is rounded to a finite count of units if it is below the ceiling. -/
lemma roundUnits_lt_overflow_iff (hden : 0 < den) :
    roundUnits (num * one) den < overflow ↔ num < den * ceiling := by
  have hunits : 2 ^ 2045 = 2 ^ 970 * (2 * one) := by decide +kernel
  have hoverflow : overflow = 2 ^ (53 + 2045) := by decide +kernel
  rw [hoverflow, roundUnits_lt_two_pow_iff hden, hunits, ceiling]
  generalize (2 ^ 54 - 1 : Nat) = a
  generalize (2 ^ 970 : Nat) = b
  have hleft : 2 * (num * one) = num * (2 * one) := Nat.mul_left_comm _ _ _
  have hright : a * (b * (2 * one) * den) = den * (a * b) * (2 * one) := by ring
  rw [hleft, hright, Nat.mul_lt_mul_right (Nat.mul_pos Nat.two_pos one_pos)]

/-- **A quotient is rounded to a finite double** exactly if its magnitude is below the ceiling. -/
lemma ofRatio_isFinite (negative : Bool) (hden : 0 < den) :
    (ofRatio negative num den).isFinite = true ↔ num < den * ceiling := by
  rw [ofRatio, dif_pos hden, ofUnits, ← roundUnits_lt_overflow_iff hden]
  split
  next hlt => exact iff_of_true rfl hlt
  next hge => exact iff_of_false Bool.false_ne_true hge

/-- A quotient is never rounded to not-a-number. -/
lemma ofRatio_isNaN (negative : Bool) (num den : Nat) :
    (ofRatio negative num den).isNaN = false := by
  unfold ofRatio ofUnits
  split
  · split <;> rfl
  · rfl

/-! ## Whole numbers as doubles -/

/-- Scaled by a power of two, a number of at most 53 binary digits has no more digits. -/
lemma two_pow_dvd_mul {n : Nat} (h : n ≤ 2 ^ 53) (k : Nat) :
    2 ^ ((n * 2 ^ k).log2 - 52) ∣ n * 2 ^ k := by
  rcases Nat.eq_zero_or_pos n with rfl | hpos
  · simp
  · have hne : n * 2 ^ k ≠ 0 := Nat.mul_ne_zero hpos.ne' (Nat.two_pow_pos k).ne'
    rcases h.lt_or_eq with hlt | rfl
    · have hlog : (n * 2 ^ k).log2 < 53 + k := by
        rw [Nat.log2_lt hne, Nat.pow_add]
        exact Nat.mul_lt_mul_of_pos_right hlt (Nat.two_pow_pos k)
      exact (Nat.pow_dvd_pow 2 (by omega)).trans (Nat.dvd_mul_left _ _)
    · rw [← Nat.pow_add, Nat.log2_two_pow]
      exact Nat.pow_dvd_pow 2 (by omega)

/-- The units in one are a power of two. -/
lemma one_eq : one = 2 ^ 1074 := by decide +kernel

/-- A whole number of at most 53 binary digits is exactly a double. -/
lemma representable_mul_one {n : Nat} (h : n ≤ 2 ^ 53) : Representable (n * one) := by
  have hbound : 2 ^ 53 * one < overflow := by decide +kernel
  have hdvd := two_pow_dvd_mul h 1074
  rw [← one_eq] at hdvd
  exact ⟨(Nat.mul_le_mul_right one h).trans_lt hbound, hdvd⟩

/-- A representable count of units is kept. -/
lemma roundUnits_of_representable {units : Nat} (h : Representable units) :
    roundUnits units 1 = units :=
  roundUnits_of_dvd (by rw [step, Nat.div_one]; exact h.2)

/-- A representable whole number is the double nearest to it. -/
lemma ofInt_of_representable {n : Int} (h : Representable (n.natAbs * one)) :
    ofInt n = .finite (decide (n < 0)) (n.natAbs * one) h := by
  have hround := roundUnits_of_representable h
  have hlt : roundUnits (n.natAbs * one) 1 < overflow := by
    rw [hround]
    exact h.1
  rw [ofInt, ofUnits, dif_pos hlt]
  simp only [hround]

/-- The quotient of two counts of units does not depend on the unit. -/
lemma ofUnits_mul_right (negative : Bool) {k : Nat} (hden : 0 < den) (hk : 0 < k)
    (hden' : 0 < den * k) :
    ofUnits negative (num * k) (den * k) hden' = ofUnits negative num den hden := by
  simp only [ofUnits, roundUnits_mul_right hden hk]

/-- A finite number is divided by one that is not zero as their counts of units are. -/
lemma div_finite (s t : Bool) {u v : Nat} (hu : Representable u) (hv : Representable v)
    (hpos : 0 < v) : (finite s u hu).div (finite t v hv) = ofUnits (s != t) (u * one) v hpos :=
  dif_pos hpos

/-- The quotient of two whole numbers that are exactly doubles is rounded once. -/
lemma div_mul_one (s t : Bool) {a b : Nat} (hb : 0 < b) (ha' : Representable (a * one))
    (hb' : Representable (b * one)) :
    (finite s (a * one) ha').div (finite t (b * one) hb') = ofRatio (s != t) a b := by
  have hpos : 0 < b * one := Nat.mul_pos hb one_pos
  rw [div_finite s t ha' hb' hpos, ofUnits_mul_right (s != t) hb one_pos, ofRatio, dif_pos hb]

end Binary64

end DataSchema
