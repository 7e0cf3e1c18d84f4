import DataSchema.Casting
import DataSchema.Proofs.NumeralForms
import DataSchema.Proofs.RoundedQuotients

set_option autoImplicit false

/-!
# Numbers read from text

A text that is a numeral, with blanks around it, is read as the rational number that it denotes.
Whether that is a whole number, and which one, is found out exactly, however many digits there are
and wherever the point stands. A double is made of it by rounding once, so what is too large becomes
an infinity, and everything else is finite.

## Main results

* `DataSchema.Numeral.toInt?_eq_some` — the whole number that a numeral denotes.
* `DataSchema.parseInteger_exact` — texts as whole numbers.
* `DataSchema.Numeral.toBinary64_isFinite` — the numerals whose nearest double is finite.
* `DataSchema.parseNumber_finite` — texts as doubles, and what casts make of them.
-/

namespace DataSchema

/-! ## Numbers of digits -/

/-- A decimal digit is less than ten. -/
lemma decimalDigit?_lt {c : Char} {d : Nat} (h : decimalDigit? c = some d) : d < 10 := by
  obtain ⟨z, hz, rfl⟩ := Option.map_eq_some_iff.1 h
  have hrange := List.find?_some hz
  rw [Bool.and_eq_true, decide_eq_true_eq, decide_eq_true_eq] at hrange
  omega

/-- Digits make up less than the power of ten after them. -/
lemma digitsValue_lt {ds : List Char} (h : ∀ c ∈ ds, isDecimalDigit c = true) :
    digitsValue ds < 10 ^ ds.length := by
  induction ds using List.reverseRecOn with
  | nil => exact Nat.one_pos
  | append_singleton ds c ih =>
    have hinit := ih fun c' hc' => h c' (List.mem_append_left _ hc')
    obtain ⟨d, hd⟩ := Option.isSome_iff_exists.1 (h c (by simp))
    have hlast : digitsValue [c] = d := by simp [digitsValue, hd]
    have hlt := decimalDigit?_lt hd
    rw [digitsValue_append, hlast, List.length_append, List.length_singleton, Nat.pow_succ]
    omega

/-- A number has as many digits as say how large it is. -/
lemma lt_ten_pow_decimalLength (n : Nat) : n < 10 ^ decimalLength n :=
  (Nat.length_toDigits_le_iff (by decide) (List.length_pos_iff.2 Nat.toDigits_ne_nil)).1 le_rfl

/-- A number below a power of ten has no more digits. -/
lemma decimalLength_le {n k : Nat} (hk : 0 < k) (h : n < 10 ^ k) : decimalLength n ≤ k :=
  (Nat.length_toDigits_le_iff (by decide) hk).2 h

/-- A number that is not zero is at least the power of ten of its first digit. -/
lemma ten_pow_le {n : Nat} (h : n ≠ 0) : 10 ^ (decimalLength n - 1) ≤ n := by
  rcases Nat.lt_or_ge 1 (decimalLength n) with hlong | hshort
  · by_contra hlt
    have := decimalLength_le (by omega) (Nat.lt_of_not_ge hlt)
    omega
  · rw [Nat.sub_eq_zero_of_le hshort]
    exact Nat.pos_of_ne_zero h

/-! ## Whole numbers -/

namespace Numeral

variable {n : Numeral} {i : ℤ}

/-- The digits that were read, with the sign. -/
def signed (n : Numeral) : ℤ := if n.negative then -(n.coefficient : ℤ) else n.coefficient

/-- A numeral denotes its digits times its power of ten. -/
lemma value_eq (n : Numeral) : n.value = n.signed * 10 ^ n.power := by
  unfold value signed
  cases n.negative <;> simp

/-- A power of ten divides the digits with their sign if it divides them without. -/
lemma dvd_signed {k : ℕ} : (10 ^ k : ℤ) ∣ n.signed ↔ 10 ^ k ∣ n.coefficient := by
  have hcast : (10 ^ k : ℤ) = ((10 ^ k : ℕ) : ℤ) := by push_cast; rfl
  unfold signed
  rw [hcast]
  cases n.negative
  · exact Int.natCast_dvd_natCast
  · exact (Int.dvd_neg).trans Int.natCast_dvd_natCast

/-- With a power of ten that is not negative, the number is the digits with zeros after them. -/
lemma toInt?_of_nonneg {k : ℕ} (hpower : n.power = k) : n.toInt? = some (n.signed * 10 ^ k) := by
  unfold toInt? signed
  dsimp only
  rw [hpower]
  by_cases hzero : n.coefficient = 0
  · rw [if_pos hzero, hzero]
    simp
  · rw [if_neg hzero, if_pos (Int.natCast_nonneg k), Int.natAbs_natCast]
    cases n.negative <;> simp

/-- With a negative power of ten, the number is whole if the power divides the digits. -/
lemma toInt?_of_neg {k : ℕ} (hpower : n.power = -(k : ℤ)) (hk : 0 < k) :
    n.toInt? = if (10 ^ k : ℤ) ∣ n.signed then some (n.signed / 10 ^ k) else none := by
  unfold toInt?
  dsimp only
  rw [hpower, Int.natAbs_neg, Int.natAbs_natCast]
  simp only [dvd_signed, Nat.pow_eq]
  by_cases hzero : n.coefficient = 0
  · have hsigned : n.signed = 0 := by
      unfold signed
      rw [hzero]
      simp
    rw [if_pos hzero, hzero, if_pos (dvd_zero _), hsigned, Int.zero_ediv]
  · rw [if_neg hzero, if_neg (by omega)]
    by_cases hshort : decimalLength n.coefficient < k
    · have hlt : n.coefficient < 10 ^ k :=
        (lt_ten_pow_decimalLength _).trans_le (Nat.pow_le_pow_right (by decide) hshort.le)
      rw [if_pos hshort, if_neg (Nat.not_dvd_of_pos_of_lt (Nat.pos_of_ne_zero hzero) hlt)]
    · rw [if_neg hshort]
      simp only [← Nat.dvd_iff_mod_eq_zero]
      split
      next hdvd =>
        refine congrArg some ?_
        unfold signed
        cases n.negative
        · simp
        · rw [if_pos rfl, if_pos rfl, Int.neg_ediv_of_dvd (by exact_mod_cast hdvd)]
          simp
      next => rfl

/-- **The whole number that a numeral denotes** is found exactly, and only if there is one.

**Proof sketch.** With a power of ten that is not negative the number is whole, and with a negative
one if the power divides the digits; it does not if it has more digits itself. -/
theorem toInt?_eq_some : n.toInt? = some i ↔ n.value = i := by
  rw [value_eq]
  rcases lt_or_ge n.power 0 with hneg | hnonneg
  · obtain ⟨k, hk⟩ : ∃ k : ℕ, n.power = -(k : ℤ) := ⟨n.power.natAbs, by omega⟩
    have hpow : (10 ^ k : ℤ) ≠ 0 := pow_ne_zero k (by norm_num)
    have hvalue : (n.signed * 10 ^ n.power : ℚ) = i ↔ n.signed = i * 10 ^ k := by
      rw [hk, zpow_neg, zpow_natCast, ← div_eq_mul_inv,
        div_eq_iff (pow_ne_zero k (by norm_num))]
      exact_mod_cast Iff.rfl
    rw [toInt?_of_neg hk (by omega), hvalue, Option.ite_none_right_eq_some, Option.some.injEq]
    refine ⟨fun ⟨hdvd, heq⟩ => ?_, fun heq => ⟨heq ▸ dvd_mul_left _ _, ?_⟩⟩
    · rw [← heq, Int.ediv_mul_cancel hdvd]
    · rw [heq, Int.mul_ediv_cancel _ hpow]
  · obtain ⟨k, hk⟩ : ∃ k : ℕ, n.power = k := ⟨n.power.natAbs, by omega⟩
    rw [toInt?_of_nonneg hk, Option.some.injEq, hk, zpow_natCast]
    exact_mod_cast Iff.rfl

end Numeral

/-! ## Texts as whole numbers -/

/-- Dropping characters at the ends makes no text longer. -/
lemma length_trimBy_le (p : Char → Bool) (cs : List Char) : (trimBy p cs).length ≤ cs.length := by
  have hback := (List.dropWhile_suffix p (l := (cs.dropWhile p).reverse)).length_le
  rw [List.length_reverse] at hback
  rw [trimBy, List.length_reverse]
  exact hback.trans (List.dropWhile_suffix p).length_le

namespace WrittenNumeral

variable {f : WrittenNumeral} {text : String}

/-- The digits are part of the text. -/
lemma length_digits_le (f : WrittenNumeral) : (f.whole ++ f.places).length ≤ f.chars.length := by
  have hplaces : f.places.length ≤ f.pointed.length := by
    unfold places pointed
    cases f.fraction <;> simp
  simp only [chars, List.length_append]
  omega

/-- All digits are digits. -/
lemma isDecimalDigit_digits (f : WrittenNumeral) :
    ∀ c ∈ f.whole ++ f.places, isDecimalDigit c = true := fun c hc =>
  (List.mem_append.1 hc).elim (f.isDecimalDigit_whole c) (f.isDecimalDigit_fraction c)

/-- A numeral with a moderate exponent, in a text of a moderate length, is worked with exactly. -/
lemma inRange_numeral (hpower : f.power.natAbs < 10 ^ 15) (hlength : f.chars.length < 2 ^ 57) :
    f.numeral.inRange = true := by
  have hdigits := f.length_digits_le
  have hcoefficient : decimalLength f.numeral.coefficient ≤ (f.whole ++ f.places).length :=
    decimalLength_le (List.length_pos_iff.2 f.digits_ne_nil) (digitsValue_lt f.isDecimalDigit_digits)
  rw [List.length_append] at hdigits hcoefficient
  rw [Numeral.inRange, Bool.and_eq_true, decide_eq_true_eq, decide_eq_true_eq,
    Numeral.greatestPower, Numeral.leastPower]
  generalize decimalLength f.numeral.coefficient = n at hcoefficient
  rw [numeral]
  dsimp only
  omega

/-- A numeral in the range of exact work is read from the text that it is, blanks around it. -/
lemma parseNumeral_of_chars (hchars : f.chars = trimBy isBlank text.toList)
    (hrange : f.numeral.inRange = true) : parseNumeral (.str text) = .ok f.numeral := by
  unfold parseNumeral
  dsimp only
  rw [← hchars, f.ofChars?_chars]
  dsimp only
  rw [if_pos hrange]

end WrittenNumeral

/-- What is read from a text is read from a numeral that the text is, blanks around it; anything
else is no number. -/
lemma parseNumeral_cases (text : String) :
    parseNumeral (.str text) = .error (.invalidNumber text) ∨
      ∃ f : WrittenNumeral, f.chars = trimBy isBlank text.toList ∧
        parseNumeral (.str text) = .ok f.numeral := by
  unfold parseNumeral
  dsimp only
  cases hread : Numeral.ofChars? (trimBy isBlank text.toList) with
  | none => exact .inl rfl
  | some n =>
    obtain ⟨f, hchars, rfl⟩ := Numeral.ofChars?_eq_some.1 hread
    dsimp only
    split
    · exact .inr ⟨f, hchars, rfl⟩
    · exact .inl rfl

/-- A numeral that was read is made a whole number of, if it denotes one. -/
lemma parseInteger_of_read {text : String} {n : Numeral} (h : parseNumeral (.str text) = .ok n) :
    parseInteger (.str text) = n.toInt?.elim (.error (.notWhole text)) .ok := by
  have hread : parseInteger (.str text) =
      (parseNumeral (.str text)).bind fun n => n.toInt?.elim (.error (.notWhole text)) .ok := by
    unfold parseInteger
    refine congrArg _ (funext fun n => ?_)
    cases n.toInt? <;> rfl
  rw [hread, h]
  rfl

/-- A whole number that is made of a text is what a numeral denotes that the text is, blanks around
it. -/
lemma exists_of_parseInteger {text : String} {i : ℤ} (h : parseInteger (.str text) = .ok i) :
    ∃ f : WrittenNumeral, f.chars = trimBy isBlank text.toList ∧ f.value = i := by
  rcases parseNumeral_cases text with herror | ⟨f, hchars, hread⟩
  · rw [parseInteger, herror] at h
    cases h
  · rw [parseInteger_of_read hread] at h
    cases hwhole : f.numeral.toInt? with
    | none =>
      rw [hwhole] at h
      cases h
    | some j =>
      rw [hwhole] at h
      obtain rfl := Except.ok.inj h
      exact ⟨f, hchars, f.value_numeral.symm.trans (Numeral.toInt?_eq_some.1 hwhole)⟩

/-- **Whole numbers are read from texts exactly**, however many digits there are. A text that is a
numeral, with blanks around it, is read as the whole number that the numeral denotes, and is refused
if that is no whole number; any other text is refused as no number. Nothing else is read from any
text. The powers of ten that are worked with end at `10 ^ 18`. An exponent below `10 ^ 15` leaves
room for more digits than there are places in a memory of `2 ^ 57` bytes, which is the largest that
is addressed.

**Proof sketch.** Digits make up less than the power of ten after them, so the numeral is in the
range of exact work, and from there `Numeral.toInt?_eq_some` decides. -/
theorem parseInteger_exact (text : String) :
    (∀ f : WrittenNumeral, f.chars = trimBy isBlank text.toList →
      f.power.natAbs < 10 ^ 15 → text.length < 2 ^ 57 →
      (∀ i : ℤ, f.value = i → parseInteger (.str text) = .ok i) ∧
        ((∀ i : ℤ, f.value ≠ i) → parseInteger (.str text) = .error (.notWhole text))) ∧
      ((∀ f : WrittenNumeral, f.chars ≠ trimBy isBlank text.toList) →
        parseInteger (.str text) = .error (.invalidNumber text)) ∧
      ∀ i : ℤ, parseInteger (.str text) = .ok i →
        ∃ f : WrittenNumeral, f.chars = trimBy isBlank text.toList ∧ f.value = i := by
  refine ⟨fun f hchars hpower hlength => ?_, fun hnone => ?_, fun i => exists_of_parseInteger⟩
  · have hshort : f.chars.length < 2 ^ 57 := by
      rw [hchars]
      exact (length_trimBy_le _ _).trans_lt (String.length_toList ▸ hlength)
    have hread := f.parseNumeral_of_chars hchars (f.inRange_numeral hpower hshort)
    refine ⟨fun i hi => ?_, fun hne => ?_⟩
    · have hwhole : f.numeral.toInt? = some i := Numeral.toInt?_eq_some.2 (f.value_numeral.trans hi)
      rw [parseInteger_of_read hread, hwhole]
      rfl
    · have hbroken : f.numeral.toInt? = none := Option.eq_none_iff_forall_ne_some.2 fun i hi =>
        hne i (f.value_numeral.symm.trans (Numeral.toInt?_eq_some.1 hi))
      rw [parseInteger_of_read hread, hbroken]
      rfl
  · rcases parseNumeral_cases text with herror | ⟨f, hchars, -⟩
    · rw [parseInteger, herror]
      rfl
    · exact absurd hchars (hnone f)

/-- Minus one thousand two hundred and fifty, with a point and an exponent. -/
def pointedThousand : WrittenNumeral where
  sign := .minus
  whole := ['1', '2']
  fraction := some ['5', '0']
  exponent := some ⟨false, .absent, ['2'], by decide, List.all_eq_true.1 (by decide)⟩
  isDecimalDigit_whole := List.all_eq_true.1 (by decide)
  isDecimalDigit_fraction := List.all_eq_true.1 (by decide)
  digits_ne_nil := by decide

/-- One and a half. -/
def oneAndHalf : WrittenNumeral where
  sign := .absent
  whole := ['1']
  fraction := some ['5']
  exponent := none
  isDecimalDigit_whole := List.all_eq_true.1 (by decide)
  isDecimalDigit_fraction := List.all_eq_true.1 (by decide)
  digits_ne_nil := by decide

/-- A whole number is read where there are a point and an exponent, one and a half is refused, and
so is a text that breaks off. -/
theorem pointedThousand_parsed :
    (pointedThousand.chars = trimBy isBlank " -12.50e2 ".toList ∧
      pointedThousand.power.natAbs < 10 ^ 15 ∧ " -12.50e2 ".length < 2 ^ 57 ∧
      pointedThousand.value = (-1250 : ℤ) ∧ parseInteger (.str " -12.50e2 ") = .ok (-1250)) ∧
    (oneAndHalf.chars = trimBy isBlank "1.5".toList ∧ oneAndHalf.power.natAbs < 10 ^ 15 ∧
      "1.5".length < 2 ^ 57 ∧ (∀ i : ℤ, oneAndHalf.value ≠ i) ∧
      parseInteger (.str "1.5") = .error (.notWhole "1.5")) ∧
    (∀ f : WrittenNumeral, f.chars ≠ trimBy isBlank "1e".toList) ∧
      parseInteger (.str "1e") = .error (.invalidNumber "1e") := by
  have hthousand : pointedThousand.value = (-1250 : ℤ) := by
    rw [← pointedThousand.value_numeral]
    exact Numeral.toInt?_eq_some.1 (by decide)
  have hhalf : ∀ i : ℤ, oneAndHalf.value ≠ i := by
    intro i hi
    rw [← oneAndHalf.value_numeral] at hi
    have hnone : oneAndHalf.numeral.toInt? = none := by decide
    rw [Numeral.toInt?_eq_some.2 hi] at hnone
    cases hnone
  have hbroken : ∀ f : WrittenNumeral, f.chars ≠ trimBy isBlank "1e".toList := by
    intro f hf
    have hnone : Numeral.ofChars? (trimBy isBlank "1e".toList) = none := by decide
    rw [← hf, f.ofChars?_chars] at hnone
    cases hnone
  have hchars : pointedThousand.chars = trimBy isBlank " -12.50e2 ".toList := by decide
  have hchars' : oneAndHalf.chars = trimBy isBlank "1.5".toList := by decide
  exact ⟨⟨hchars, by decide, by decide, hthousand,
      ((parseInteger_exact _).1 pointedThousand hchars (by decide) (by decide)).1 _ hthousand⟩,
    ⟨hchars', by decide, by decide, hhalf,
      ((parseInteger_exact _).1 oneAndHalf hchars' (by decide) (by decide)).2 hhalf⟩,
    hbroken, (parseInteger_exact _).2.1 hbroken⟩

/-! ## Texts as doubles -/

/-- The least magnitude that is rounded to an infinity. -/
lemma Binary64.ceiling_eq : (Binary64.ceiling : ℚ) = 2 ^ 1024 - 2 ^ 970 := by
  have hodd : ((2 ^ 54 - 1 : ℕ) : ℚ) = 2 ^ 54 - 1 := by norm_num
  rw [Binary64.ceiling, Nat.cast_mul, hodd, Nat.cast_pow, Nat.cast_ofNat, sub_mul, one_mul,
    ← pow_add]

namespace Numeral

variable {n : Numeral}

/-- The magnitude of a numeral is that of its digits. -/
lemma abs_value (n : Numeral) : |n.value| = n.coefficient * 10 ^ n.power := by
  have hsign : |(if n.negative then -1 else 1 : ℚ)| = 1 := by cases n.negative <;> simp
  rw [value, abs_mul, abs_mul, hsign, one_mul, Nat.abs_cast, abs_of_pos (zpow_pos (by norm_num) _)]

/-- A numeral is below the power of ten before its first digit. -/
lemma abs_value_lt (n : Numeral) : |n.value| < 10 ^ (n.power + decimalLength n.coefficient) := by
  have hten : (10 : ℚ) ≠ 0 := by norm_num
  have hlt : (n.coefficient : ℚ) < 10 ^ decimalLength n.coefficient := by
    exact_mod_cast lt_ten_pow_decimalLength n.coefficient
  rw [abs_value, add_comm, zpow_add₀ hten, zpow_natCast]
  exact mul_lt_mul_of_pos_right hlt (zpow_pos (by norm_num) _)

/-- A numeral that is not zero is at least the power of ten of its first digit. -/
lemma le_abs_value (hne : n.coefficient ≠ 0) :
    10 ^ (n.power + decimalLength n.coefficient - 1) ≤ |n.value| := by
  have hten : (10 : ℚ) ≠ 0 := by norm_num
  have hlength : 1 ≤ decimalLength n.coefficient := List.length_pos_iff.2 Nat.toDigits_ne_nil
  have hle : (10 : ℚ) ^ (decimalLength n.coefficient - 1) ≤ n.coefficient := by
    exact_mod_cast ten_pow_le hne
  have hpower : n.power + decimalLength n.coefficient - 1 =
      ((decimalLength n.coefficient - 1 : ℕ) : ℤ) + n.power := by
    push_cast [hlength]
    ring
  rw [abs_value, hpower, zpow_add₀ hten, zpow_natCast]
  exact mul_le_mul_of_nonneg_right hle (zpow_nonneg (by norm_num) _)

/-- No numeral is rounded to not-a-number. -/
lemma toBinary64_isNaN (n : Numeral) : n.toBinary64.isNaN = false := by
  unfold toBinary64
  dsimp only
  split_ifs
  · exact Binary64.ofRatio_isNaN ..
  · rfl
  · exact Binary64.ofRatio_isNaN ..
  · exact Binary64.ofRatio_isNaN ..

/-- **The numerals whose nearest double is finite** are those below the ceiling of the doubles.

**Proof sketch.** Where the power of ten is not computed, the first digit decides: it stands so far
to the right that the numeral is below one, or so far to the left that it is above the ceiling.
Otherwise a quotient of natural numbers is rounded, of which `Binary64.ofRatio_isFinite` tells. -/
theorem toBinary64_isFinite : n.toBinary64.isFinite = true ↔ |n.value| < Binary64.ceiling := by
  have hfloor : 1 ≤ Binary64.ceiling := by decide +kernel
  have hroof : Binary64.ceiling ≤ 10 ^ 400 := by decide +kernel
  generalize hceiling : Binary64.ceiling = ceiling at hfloor hroof
  unfold toBinary64
  dsimp only
  split_ifs with hsmall hlarge hnonneg
  · rw [Binary64.ofRatio_isFinite n.negative Nat.one_pos, hceiling, Nat.one_mul]
    refine iff_of_true (by omega) ?_
    rcases hsmall with hzero | hlead
    · rw [abs_value, hzero, Nat.cast_zero, zero_mul]
      exact_mod_cast hfloor
    · calc |n.value| < 10 ^ (n.power + decimalLength n.coefficient) := n.abs_value_lt
        _ ≤ 10 ^ (0 : ℤ) := zpow_le_zpow_right₀ (by norm_num) (by omega)
        _ = 1 := zpow_zero _
        _ ≤ ceiling := by exact_mod_cast hfloor
  · refine iff_of_false Bool.false_ne_true (not_lt.2 ?_)
    calc (ceiling : ℚ) ≤ 10 ^ 400 := by exact_mod_cast hroof
      _ = 10 ^ (400 : ℤ) := (zpow_natCast _ 400).symm
      _ ≤ 10 ^ (n.power + decimalLength n.coefficient - 1) :=
        zpow_le_zpow_right₀ (by norm_num) (by omega)
      _ ≤ |n.value| := le_abs_value fun hzero => hsmall (.inl hzero)
  · obtain ⟨k, hk⟩ : ∃ k : ℕ, n.power = k := ⟨n.power.natAbs, by omega⟩
    rw [Binary64.ofRatio_isFinite n.negative Nat.one_pos, hceiling, Nat.one_mul, abs_value, hk,
      Int.natAbs_natCast, zpow_natCast]
    exact_mod_cast Iff.rfl
  · obtain ⟨k, hk⟩ : ∃ k : ℕ, n.power = -(k : ℤ) := ⟨n.power.natAbs, by omega⟩
    have hpos : (0 : ℚ) < 10 ^ k := pow_pos (by norm_num) k
    rw [hk, Int.natAbs_neg, Int.natAbs_natCast, Nat.pow_eq,
      Binary64.ofRatio_isFinite n.negative (Nat.pow_pos (by decide)), hceiling, abs_value, hk,
      zpow_neg, zpow_natCast, ← div_eq_mul_inv, div_lt_iff₀ hpos, mul_comm (ceiling : ℚ)]
    exact_mod_cast Iff.rfl

end Numeral

/-- A schema that asks for a number, and for nothing else, casts a text to the double that it
denotes, whatever that is. -/
lemma cast_number_text {context : CastContext} (hlimit : 0 < context.limit) (text : String) :
    (cast context (.schema { type := some .number }) (.str text)).outcome =
      .ok (match parseNumber (.str text) with
        | .ok x => .ok (.float x)
        | .error e => .failed [⟨.invalidFormat, "Cannot cast to number: " ++ e.message, []⟩]) := by
  obtain ⟨depth, hdepth⟩ : ∃ depth, context.limit.toNat = depth + 1 :=
    ⟨context.limit.toNat - 1, by omega⟩
  have hnode : Casting.castNode context (depth + 1) (.schema { type := some .number }) (.str text)
      [] [] =
      Casting.converted { type := some .number } [] (parseNumber (.str text)) .float := by
    show Casting.castComposed context _ _ { type := some .number } (.str text) [] [] = _
    have hscalar : Casting.castScalar { type := some .number } (.str text) [] =
        Casting.converted { type := some .number } [] (parseNumber (.str text)) .float := rfl
    unfold Casting.castComposed Casting.castOwn
    rw [hscalar]
    generalize parseNumber (.str text) = read
    cases read <;> rfl
  unfold cast
  rw [hdepth, hnode]
  generalize parseNumber (.str text) = read
  cases read <;> rfl

/-- **A text that is read as a double** is a numeral, with blanks around it, and any other is
refused. What is read is a number, and a finite one exactly if the numeral is below the middle
between the greatest double and the power of two after it; from there on it is an infinity. A cast
of the text to a number is that double.

**Proof sketch.** `parseNumeral_cases` tells what is read, and `Numeral.toBinary64_isFinite` when
rounding it overflows; the check after the cast has nothing to find. -/
theorem parseNumber_finite (context : CastContext) (hlimit : 0 < context.limit) (text : String) :
    (parseNumber (.str text) = .error (.invalidNumber text) ∧
        (cast context (.schema { type := some .number }) (.str text)).outcome =
          .ok (.failed [⟨.invalidFormat,
            "Cannot cast to number: Invalid numeric value '" ++ text ++ "'", []⟩])) ∨
      ∃ (f : WrittenNumeral) (x : Binary64), f.chars = trimBy isBlank text.toList ∧
        parseNumber (.str text) = .ok x ∧
        (cast context (.schema { type := some .number }) (.str text)).outcome =
          .ok (.ok (.float x)) ∧
        x.isNaN = false ∧ (x.isFinite = true ↔ |f.value| < 2 ^ 1024 - 2 ^ 970) := by
  rw [cast_number_text hlimit]
  unfold parseNumber
  rcases parseNumeral_cases text with herror | ⟨f, hchars, hread⟩
  · rw [herror]
    exact .inl ⟨rfl, rfl⟩
  · rw [hread]
    refine .inr ⟨f, f.numeral.toBinary64, hchars, rfl, rfl, f.numeral.toBinary64_isNaN, ?_⟩
    rw [← f.value_numeral, ← Binary64.ceiling_eq]
    exact Numeral.toBinary64_isFinite

/-- A numeral with an exponent is read, and is what a cast makes of the text. -/
theorem thousand_parsed :
    0 < (64 : Int) ∧
      ∃ (f : WrittenNumeral) (x : Binary64), f.chars = trimBy isBlank " 1e3".toList ∧
        parseNumber (.str " 1e3") = .ok x ∧
        (cast ⟨⟨[]⟩, .generic, 64⟩ (.schema { type := some .number }) (.str " 1e3")).outcome =
          .ok (.ok (.float x)) ∧
        x.isNaN = false ∧ (x.isFinite = true ↔ |f.value| < 2 ^ 1024 - 2 ^ 970) := by
  have hread : (parseNumber (.str " 1e3")).toBool = true := by decide +kernel
  rcases parseNumber_finite ⟨⟨[]⟩, .generic, 64⟩ (by decide) " 1e3" with ⟨herror, -⟩ | hfinite
  · rw [herror] at hread
    cases hread
  · exact ⟨by decide, hfinite⟩

/-- A power of ten beyond the doubles is read as an infinity, and cast to one. -/
theorem greatPower_parsed :
    parseNumber (.str "1e400") = .ok (.infinity false) ∧
      (cast ⟨⟨[]⟩, .generic, 64⟩ (.schema { type := some .number }) (.str "1e400")).outcome =
        .ok (.ok (.float (.infinity false))) ∧
      (Binary64.infinity false).isFinite = false := by
  have hread : parseNumber (.str "1e400") = .ok (.infinity false) := by decide +kernel
  refine ⟨hread, ?_, rfl⟩
  rw [cast_number_text (by decide), hread]

end DataSchema
