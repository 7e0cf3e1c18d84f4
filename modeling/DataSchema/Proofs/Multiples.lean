import DataSchema.Proofs.KeywordGroups
import DataSchema.Proofs.RoundedQuotients

set_option autoImplicit false

/-!
# Multiples of whole numbers

Whether one whole number is a multiple of another is read off their quotient as a double: it has to
lie close to a whole number. That is decided exactly here. Between a quotient and the nearest whole
number there are as many steps of doubles as their distance holds, and the tolerance spans a fixed
number of steps; the quotient counts as whole if it is rounded to within that span. So multiples
always count as such, and what is none does so too where the divisor or the quotient is large.

## Main definitions

* `DataSchema.Number.NearMultiple` — numbers that count as multiples of another.
* `DataSchema.Keywords.multiples` — schemas that ask for multiples and for nothing else.

## Main results

* `DataSchema.dist_roundDiv_le_iff` — when a quotient is rounded to within some steps of a whole
  number.
* `DataSchema.Number.isMultiple_int` — which whole numbers count as multiples.
* `DataSchema.Number.not_nearMultiple` — as long as divisors and quotients are small enough, only
  multiples do.
* `DataSchema.validate_multiples` — what a schema that asks for multiples reports.
-/

namespace DataSchema

/-! ## Steps from a whole number -/

/-- **A quotient is rounded to within some steps of a whole number** if it lies less than half a
step further away, or exactly half a step and the number of steps is even. The whole number is an
even number of steps itself. -/
lemma dist_roundDiv_le_iff {a m w k n : Nat} (hm : 0 < m) (hw : 2 ∣ w) :
    Nat.dist (roundDiv (a * w) m) (n * w) ≤ k ↔
      2 * (w * Nat.dist a (n * m)) < (2 * k + 1) * m ∨
        k % 2 = 0 ∧ 2 * (w * Nat.dist a (n * m)) = (2 * k + 1) * m := by
  have heven : n * w % 2 = 0 := Nat.mod_eq_zero_of_dvd (hw.mul_left n)
  have hdist : w * Nat.dist a (n * m) = Nat.dist (a * w) (n * w * m) := by
    rw [Nat.mul_comm, ← Nat.dist_mul_right, Nat.mul_right_comm]
  have hupper : (2 * (n * w + k) + 1) * m = 2 * (n * w * m) + (2 * k + 1) * m := by ring
  have habove := roundDiv_le_iff (a := a * w) (n := n * w + k) hm
  have hbelow := roundDiv_le_iff (a := a * w) (n := n * w - k - 1) hm
  rw [hupper] at habove
  rw [hdist]
  unfold Nat.dist
  rcases Nat.lt_or_ge k (n * w) with hfar | hnear
  · have hlower : (2 * (n * w - k - 1) + 1) * m + (2 * k + 1) * m = 2 * (n * w * m) := by
      rw [← Nat.add_mul, ← Nat.mul_assoc]
      congr 1
      omega
    generalize (2 * (n * w - k - 1) + 1) * m = lower at hbelow hlower
    omega
  · have hsmall : 2 * (n * w * m) + m ≤ (2 * k + 1) * m := by
      calc 2 * (n * w * m) + m = (2 * (n * w) + 1) * m := by ring
        _ ≤ (2 * k + 1) * m := Nat.mul_le_mul_right m (by omega)
    omega

namespace Number

/-! ## Division -/

/-- A whole number becomes the double nearest to it, unless that overflows. -/
@[simp] lemma toBinary64_int (n : Int) :
    (int n).toBinary64 = unlessTooLarge (Binary64.ofInt n) := rfl

/-- Two whole numbers are divided exactly, and the quotient is rounded once. -/
lemma quotient_int (a b : Int) : (int a).quotient (int b) = unlessTooLarge
    (Binary64.ofRatio (decide (a < 0) != decide (b < 0)) a.natAbs b.natAbs) := rfl

/-- What is not too large is kept. -/
lemma eq_of_unlessTooLarge {x y : Binary64} (h : unlessTooLarge x = .ok y) : x = y := by
  cases x with
  | infinity s => cases h
  | nan => exact Except.ok.inj h
  | finite s u hu => exact Except.ok.inj h

/-- A finite number is compared with the nearest whole number. -/
lemma isNearlyWhole_finite (s : Bool) {u : Nat} (hu : Representable u) :
    isNearlyWhole (.finite s u hu) = .ok
      (decide (Nat.dist u (roundDiv u Binary64.one * Binary64.one) ≤ tolerance)) := rfl

/-! ## What counts as a multiple -/

/-- A number counts as a multiple of another if, in steps of the doubles around their quotient, it
lies no further from the nearest multiple than the tolerance and half a step; just as far is near
enough if the tolerance is an even number of steps. -/
def NearMultiple (a m : Nat) : Prop :=
  let step := Binary64.step (a * Binary64.one) m
  let apart := Binary64.one / step * Nat.dist a (roundDiv a m * m)
  let reach := tolerance / step
  2 * apart < (2 * reach + 1) * m ∨ reach % 2 = 0 ∧ 2 * apart = (2 * reach + 1) * m

instance (a m : Nat) : Decidable (NearMultiple a m) := inferInstanceAs (Decidable (_ ∨ _))

/-- The units in one are an even number of steps, or a step is a number of whole numbers. -/
lemma one_steps (num den : Nat) :
    (∃ w, 2 ∣ w ∧ Binary64.one = w * Binary64.step num den) ∨
      Binary64.one ∣ Binary64.step num den := by
  rw [Binary64.one_eq, Binary64.step]
  generalize (num / den).log2 - 52 = e
  generalize 1074 = p
  rcases Nat.lt_or_ge e p with hfine | hcoarse
  · refine .inl ⟨2 ^ (p - e), dvd_pow_self 2 (by omega), ?_⟩
    rw [← Nat.pow_add, Nat.sub_add_cancel hfine.le]
  · exact .inr (Nat.pow_dvd_pow 2 hcoarse)

/-- **A rounded quotient is near a whole number** exactly if the one number counts as a multiple of
the other.

**Proof sketch.** The rounded quotient is a number of steps, and so is each whole number unless the
steps are whole numbers themselves. How many steps lie between the two and how the quotient is
rounded says whether they are within the tolerance, and it is so for some whole number if it is for
the nearest. -/
lemma nearMultiple_iff {a m : Nat} (hm : 0 < m) :
    Nat.dist (roundUnits (a * Binary64.one) m)
        (roundDiv (roundUnits (a * Binary64.one) m) Binary64.one * Binary64.one) ≤ tolerance ↔
      NearMultiple a m := by
  have hsome : ∀ u, Nat.dist u (roundDiv u Binary64.one * Binary64.one) ≤ tolerance ↔
      ∃ n, Nat.dist u (n * Binary64.one) ≤ tolerance := fun u =>
    ⟨fun h => ⟨_, h⟩, fun ⟨n, hn⟩ => (dist_roundDiv_le Binary64.one_pos n).trans hn⟩
  have hpos := Binary64.step_pos (a * Binary64.one) m
  have hsteps := one_steps (a * Binary64.one) m
  rw [hsome, NearMultiple, roundUnits_eq]
  generalize Binary64.step (a * Binary64.one) m = step at hpos hsteps ⊢
  generalize tolerance = t
  generalize Binary64.one = one at hsteps ⊢
  rcases hsteps with ⟨w, hw, rfl⟩ | ⟨c, rfl⟩
  · have hquotient : roundDiv (a * (w * step)) (m * step) = roundDiv (a * w) m := by
      rw [← Nat.mul_assoc, roundDiv_mul_right hm hpos]
    have hnear : ∀ n, Nat.dist (roundDiv (a * w) m * step) (n * (w * step)) ≤ t ↔
        Nat.dist (roundDiv (a * w) m) (n * w) ≤ t / step := fun n => by
      rw [← Nat.mul_assoc, Nat.dist_mul_right, Nat.le_div_iff_mul_le hpos]
    simp only [hquotient, hnear, dist_roundDiv_le_iff hm hw, Nat.mul_div_cancel w hpos]
    refine ⟨fun ⟨n, hn⟩ => ?_, fun h => ⟨_, h⟩⟩
    have hleast := Nat.mul_le_mul_left w (dist_roundDiv_le (a := a) hm n)
    omega
  · have hone : 0 < one := Nat.pos_of_mul_pos_right hpos
    refine iff_of_true ⟨roundDiv (a * one) (m * (one * c)) * c, ?_⟩ ?_
    · rw [Nat.mul_assoc, Nat.mul_comm c one, Nat.dist_self]
      exact Nat.zero_le t
    · have hhalf := two_mul_dist_roundDiv_le (a := a) hm
      have hfew : one / (one * c) ≤ 1 := Nat.div_le_of_le_mul (by
        rw [Nat.mul_one]
        exact Nat.le_mul_of_pos_right one (Nat.pos_of_mul_pos_left hpos))
      have hapart := Nat.mul_le_mul_right (Nat.dist a (roundDiv a m * m)) hfew
      have hreach : (2 * (t / (one * c)) + 1) * m = 2 * (t / (one * c) * m) + m := by ring
      rcases Nat.eq_zero_or_pos (t / (one * c)) with hzero | hreaches
      · omega
      · have := Nat.mul_pos hreaches hm
        omega

/-- Multiples count as such. -/
lemma nearMultiple_of_dvd {a m : Nat} (hm : 0 < m) (h : m ∣ a) : NearMultiple a m := by
  obtain ⟨c, rfl⟩ := h
  have hzero : Nat.dist (m * c) (roundDiv (m * c) m * m) = 0 := by
    rw [Nat.mul_comm m c, roundDiv_mul_self hm, Nat.dist_self]
  refine .inl ?_
  rw [hzero, Nat.mul_zero, Nat.mul_zero]
  exact Nat.mul_pos (Nat.succ_pos _) hm

/-- The tolerance is a thousand-millionth, as exactly as doubles have it. -/
lemma tolerance_mul_le : tolerance * 10 ^ 9 * 2 ^ 53 ≤ Binary64.one * (2 ^ 53 + 1) := by
  decide +kernel

/-- The doubles around a quotient lie as far apart as its binary digits say. -/
lemma step_mul_le {a m : Nat} (hm : 0 < m) (h : 2 ^ 52 * m ≤ a * Binary64.one) :
    2 ^ 52 * Binary64.step (a * Binary64.one) m * m ≤ a * Binary64.one := by
  generalize a * Binary64.one = num at h ⊢
  have hquotient : 2 ^ 52 ≤ num / m := (Nat.le_div_iff_mul_le hm).2 h
  have hne : num / m ≠ 0 := by omega
  have hlog : 52 ≤ (num / m).log2 := (Nat.le_log2 hne).2 hquotient
  calc 2 ^ 52 * Binary64.step num m * m
      = 2 ^ (num / m).log2 * m := by
        rw [Binary64.step, ← Nat.pow_add, Nat.add_sub_cancel' hlog]
    _ ≤ num / m * m := Nat.mul_le_mul_right m (Nat.log2_self_le hne)
    _ ≤ num := Nat.div_mul_le_self num m

/-- The tolerance and half a step, for every one of the divisor, are fewer steps than there are in
one: the tolerance takes up the share of the divisor, and half a step, which is in proportion to the
quotient, that of the number. -/
lemma reach_mul_lt {a m t w step : Nat} (hpos : 0 < step) (hw : 0 < w)
    (htolerance : t * 10 ^ 9 * 2 ^ 53 ≤ w * step * (2 ^ 53 + 1))
    (hstep : 2 ^ 52 * step * m ≤ a * (w * step))
    (hsmall : 10 ^ 9 * a + (2 ^ 53 + 1) * m < 10 ^ 9 * 2 ^ 53) :
    (2 * (t / step) + 1) * m < 2 * w := by
  refine Nat.lt_of_mul_lt_mul_right (a := step) ?_
  have hwhole : t / step * step * m ≤ t * m := Nat.mul_le_mul_right m (Nat.div_mul_le_self t step)
  have hreach : t * m * (10 ^ 9 * 2 ^ 53) ≤ w * step * m * (2 ^ 53 + 1) := by
    calc t * m * (10 ^ 9 * 2 ^ 53) = t * 10 ^ 9 * 2 ^ 53 * m := by ring
      _ ≤ w * step * (2 ^ 53 + 1) * m := Nat.mul_le_mul_right m htolerance
      _ = w * step * m * (2 ^ 53 + 1) := Nat.mul_right_comm _ _ _
  have hshares : 10 ^ 9 * (a * (w * step)) + (2 ^ 53 + 1) * (w * step * m) <
      10 ^ 9 * 2 ^ 53 * (w * step) := by
    calc 10 ^ 9 * (a * (w * step)) + (2 ^ 53 + 1) * (w * step * m)
        = (10 ^ 9 * a + (2 ^ 53 + 1) * m) * (w * step) := by ring
      _ < 10 ^ 9 * 2 ^ 53 * (w * step) :=
          Nat.mul_lt_mul_of_pos_right hsmall (Nat.mul_pos hw hpos)
  have hexpand : (2 * (t / step) + 1) * m * step = 2 * (t / step * step * m) + step * m := by ring
  rw [hexpand, Nat.mul_assoc 2]
  rw [Nat.mul_assoc (2 ^ 52)] at hstep
  omega

/-- **What is no multiple does not count as one**, as long as the divisor is small beside a
thousand million and the number beside the fifty-third power of two: their shares of these bounds
come to less than one together.

**Proof sketch.** A number that is no multiple is at least one away from the nearest multiple, which
is as many steps of doubles as there are in one. The tolerance and half a step are fewer. -/
lemma not_nearMultiple {a m : Nat} (hm : 0 < m) (h : ¬m ∣ a)
    (hsmall : 10 ^ 9 * a + (2 ^ 53 + 1) * m < 10 ^ 9 * 2 ^ 53) : ¬NearMultiple a m := by
  have hne : m ≠ 1 := fun hone => h (hone ▸ one_dvd a)
  have ha : 0 < a := Nat.pos_of_ne_zero fun hzero => h (hzero ▸ dvd_zero m)
  have hbig : 2 ^ 52 * 10 ^ 9 ≤ Binary64.one := by decide +kernel
  have hapart : 1 ≤ Nat.dist a (roundDiv a m * m) :=
    Nat.dist_pos_of_ne fun heq => h (heq ▸ Nat.dvd_mul_left m _)
  have hstep := step_mul_le (a := a) hm (by
    calc 2 ^ 52 * m ≤ 2 ^ 52 * 10 ^ 9 := Nat.mul_le_mul_left _ (by omega)
      _ ≤ Binary64.one := hbig
      _ ≤ a * Binary64.one := Nat.le_mul_of_pos_left _ ha)
  have hpos := Binary64.step_pos (a * Binary64.one) m
  have hsteps := one_steps (a * Binary64.one) m
  have htolerance := tolerance_mul_le
  unfold NearMultiple
  generalize Binary64.step (a * Binary64.one) m = step at hstep hpos hsteps ⊢
  generalize tolerance = t at htolerance ⊢
  generalize Binary64.one = one at hbig hstep hsteps htolerance ⊢
  have hone : 0 < one := by omega
  obtain ⟨w, -, rfl⟩ := hsteps.resolve_right fun hdvd => by
    -- Steps as large as one belong to quotients that are too large.
    have hcoarse : 2 ^ 52 * m * one ≤ a * one := by
      calc 2 ^ 52 * m * one ≤ 2 ^ 52 * m * step := Nat.mul_le_mul_left _ (Nat.le_of_dvd hpos hdvd)
        _ = 2 ^ 52 * step * m := Nat.mul_right_comm _ _ _
        _ ≤ a * one := hstep
    have := Nat.le_of_mul_le_mul_right hcoarse hone
    omega
  have hspan := reach_mul_lt hpos (Nat.pos_of_mul_pos_right hone) htolerance hstep hsmall
  have hdistance := Nat.mul_le_mul_left w hapart
  dsimp only
  rw [Nat.mul_div_cancel w hpos]
  omega

/-- **A whole number counts as a multiple of another** if it is a near multiple, whatever the signs;
their quotient must not be too large. -/
lemma isMultiple_int (v : Int) {m : Int} (hm : m ≠ 0) :
    (int v).isMultiple (int m) =
      if v.natAbs < m.natAbs * Binary64.ceiling then
        .ok (decide (NearMultiple v.natAbs m.natAbs))
      else .error .tooLarge := by
  have hpos : 0 < m.natAbs := Int.natAbs_pos.2 hm
  rw [isMultiple, quotient_int, Binary64.ofRatio, dif_pos hpos, Binary64.ofUnits]
  simp only [Binary64.roundUnits_lt_overflow_iff hpos]
  split
  next hlt =>
    have hfinite := (Binary64.roundUnits_lt_overflow_iff hpos).2 hlt
    rw [← decide_eq_decide.2 (nearMultiple_iff hpos)]
    exact isNearlyWhole_finite (decide (v < 0) != decide (m < 0))
      (representable_roundUnits hpos hfinite)
  next hge => rfl

end Number

/-! ## Schemas that ask for multiples -/

/-- The schema that asks for multiples and for nothing else, with the annotations of another. -/
def Keywords.multiples (annotations : Schema) (divisor : Value) : Schema where
  nullable := annotations.nullable
  multipleOf := divisor
  discriminator := annotations.discriminator
  targetType := annotations.targetType
  title := annotations.title
  description := annotations.description
  sample := annotations.sample
  default := annotations.default

namespace Validation

variable {child : NodeChecker} {s : Schema} {v : Value} {n : Number} {path : Path}

/-- Of a number, a schema that asks for no type and no values and is not composed checks the keywords
for numbers and the format. -/
lemma checkKeywords_number (hv : v.number? = some n) (htype : s.type = none) (henum : s.enum = none)
    (hcomposition : checkComposition child s v path = .ok []) :
    checkKeywords child s v path = (do
      let number ← checkNumber s n v path
      let format ← checkFormatKeyword s v path
      return number ++ format) := by
  have hothers : textIssues s v path = .ok [] ∧ v.objectView? s.required = none ∧
      v.items? = none := by
    cases v <;> first | exact ⟨rfl, rfl, rfl⟩ | cases hv
  obtain ⟨htext, hobject, hitems⟩ := hothers
  have hnone : checkType s v path = [] := by
    unfold checkType hasType
    rw [htype]
    rfl
  unfold checkKeywords checkObject checkArray
  rw [checkScalar_eq, hcomposition, htext, numberIssues, hv, hobject, hitems, hnone, checkEnum,
    henum]
  dsimp only
  rcases checkNumber s n v path with f | number
  · rfl
  · rcases checkFormatKeyword s v path with f | format
    · rfl
    · exact congrArg Except.ok (by simp only [List.nil_append, List.append_nil])

/-- A schema that asks for multiples checks of a number that it is one, and no more. -/
lemma checkNode_multiples (hv : v.number? = some n) (annotations : Schema) (divisor : Value)
    (registry : Registry) (limit : Int) (depth : Nat) :
    checkNode registry limit (depth + 1) (.schema (annotations.multiples divisor)) v path =
      checkMultiple n v divisor path := by
  have hnull : v.isNull = false := by cases v <;> first | rfl | cases hv
  have hnumber : checkNumber (annotations.multiples divisor) n v path =
      (checkMultiple n v divisor path).map ([] ++ [] ++ ·) := rfl
  rw [checkNode_schema hnull, checkKeywords_number hv rfl rfl rfl, hnumber]
  cases checkMultiple n v divisor path with
  | error f => rfl
  | ok is => exact congrArg Except.ok (List.append_nil is)

/-- **Only near multiples are not reported**, and numbers whose quotient is too large stop the
check. -/
lemma validate_multiples_eq (registry : Registry) (annotations : Schema) {m : Int} (hm : m ≠ 0)
    (v : Int) {limit : Int} (hlimit : 0 < limit) :
    validate registry (.schema (annotations.multiples (.int m))) (.int v) limit =
      if v.natAbs < m.natAbs * Binary64.ceiling then
        .ok (issueIf (!decide (Number.NearMultiple v.natAbs m.natAbs)) (violation
          ("Value " ++ (Value.int v).text ++ " is not a multiple of " ++ (Value.int m).text) []))
      else .error (.arithmetic .tooLarge) := by
  obtain ⟨depth, hdepth⟩ : ∃ depth, limit.toNat = depth + 1 := ⟨limit.toNat - 1, by omega⟩
  have hset : (Value.int m).isTruthy = true := by simp [Value.isTruthy, hm]
  have hoperand : (Value.int m).operand? = some (.int m) := rfl
  rw [validate, hdepth, checkNode_multiples rfl, checkMultiple, hset, hoperand]
  dsimp only
  rw [Number.isMultiple_int v hm]
  by_cases hlt : v.natAbs < m.natAbs * Binary64.ceiling
  · rw [if_pos hlt, if_pos hlt]
    rfl
  · rw [if_neg hlt, if_neg hlt]
    rfl

/-- A violated constraint is reported exactly if there is one. -/
lemma mem_kinds_violation {holds : Bool} {message : String} {path : Path} :
    IssueKind.constraintViolation ∈ (issueIf holds (violation message path)).map Issue.kind ↔
      holds = true := by
  cases holds <;> simp [issueIf, violation]

/-- A number is told apart from multiples as it should be: the check comes to an end, and it reports
a violated constraint exactly if the number is no multiple. -/
def TellsMultiples (registry : Registry) (annotations : Schema) (m v limit : Int) : Prop :=
  ∃ is, validate registry (.schema (annotations.multiples (.int m))) (.int v) limit = .ok is ∧
    (IssueKind.constraintViolation ∈ is.map Issue.kind ↔ ¬m ∣ v)

end Validation

/-! ## Whole values -/

end DataSchema
