import Mathlib.Data.List.DropRight
import DataSchema.Number.Notation
import DataSchema.Proofs.JsonGrammar

set_option autoImplicit false

/-!
# Written numbers are numerals

Whole numbers and finite doubles are written as numerals of JSON, whatever powers of ten a notation
writes positionally. The other doubles are written as words, which are no numerals.

## Main results

* `DataSchema.Json.isNumeral_toString` — whole numbers.
* `DataSchema.Notation.isNumeral_layout` — decimal numbers laid out.
* `DataSchema.Binary64.coefficient_shortest` — the shortest digits of a double are not zero.
* `DataSchema.Notation.isNumeral_write` — finite doubles.
-/

namespace DataSchema

open Json

/-! ## Digits -/

/-- The digits of a number are digits. -/
lemma Json.isDigits_toDigits (n : Nat) : IsDigits (Nat.toDigits 10 n) :=
  ⟨Nat.toDigits_ne_nil, fun _ hc => Nat.isDigit_of_mem_toDigits (by decide) (by decide) hc⟩

/-- Zeros are digits. -/
lemma Json.isDigit_of_mem_replicate {k : Nat} {c : Char} (hc : c ∈ List.replicate k '0') :
    c.isDigit = true := by
  rw [List.eq_of_mem_replicate hc]
  rfl

/-- A zero is a digit. -/
lemma Json.isDigits_zero : IsDigits ['0'] :=
  ⟨List.cons_ne_nil _ _, fun _ hc => List.mem_singleton.1 hc ▸ rfl⟩

/-- Digits with zeros before them are digits. -/
lemma Json.IsDigits.replicate_append {ds : List Char} (h : IsDigits ds) (k : Nat) :
    IsDigits (List.replicate k '0' ++ ds) :=
  ⟨List.append_ne_nil_of_right_ne_nil _ h.1, fun _ hc =>
    (List.mem_append.1 hc).elim isDigit_of_mem_replicate (h.2 _)⟩

/-- A number that is not zero does not begin with a zero. -/
lemma Json.head?_toDigits {n : Nat} (h : n ≠ 0) : (Nat.toDigits 10 n).head? ≠ some '0' := by
  induction n using Nat.strongRecOn with
  | ind n ih =>
    rw [Nat.toDigits_eq_if (by decide)]
    split
    next => simpa using h
    next hn =>
      rw [List.head?_append_of_ne_nil _ Nat.toDigits_ne_nil]
      exact ih (n / 10) (by omega) (by omega)

/-- The digits of a number are those of a whole number. -/
lemma Json.isWhole_toDigits (n : Nat) : IsWhole (Nat.toDigits 10 n) := by
  refine ⟨isDigits_toDigits n, fun hzero => ?_⟩
  by_cases hn : n = 0
  · rw [hn, Nat.toDigits_zero]
  · exact absurd hzero (head?_toDigits hn)

/-- A whole number with a sign is a numeral. -/
lemma Json.isNumeral_whole {sign whole : List Char} (hsign : sign ∈ [[], ['-']])
    (hwhole : IsWhole whole) : IsNumeral (sign ++ whole) :=
  ⟨sign, hsign, whole, [], [], hwhole, .inl rfl, .inl rfl, by simp⟩

/-- **Whole numbers are written as numerals.** -/
theorem Json.isNumeral_toString (n : Int) : IsNumeral (toString n).toList := by
  cases n with
  | ofNat n =>
    have htext : (toString (Int.ofNat n)).toList = [] ++ Nat.toDigits 10 n := by
      show (toString n).toList = _
      rw [Nat.toString_eq_ofList_toDigits, String.toList_ofList, List.nil_append]
    rw [htext]
    exact isNumeral_whole (by simp) (isWhole_toDigits n)
  | negSucc n =>
    have htext : (toString (Int.negSucc n)).toList = ['-'] ++ Nat.toDigits 10 (n + 1) := by
      show ("-" ++ toString (n + 1)).toList = _
      rw [String.toList_append, Nat.toString_eq_ofList_toDigits, String.toList_ofList,
        String.toList_ofList]
    rw [htext]
    exact isNumeral_whole (by simp) (isWhole_toDigits _)

/-! ## Decimal numbers -/

namespace Decimal

variable {d : Decimal}

/-- The digits of a decimal number that is not zero are its digits up to the last that is not. -/
lemma digits_eq (h : d.coefficient ≠ 0) :
    d.digits = (Nat.toDigits 10 d.coefficient).rdropWhile (· = '0') ∧ d.digits ≠ [] := by
  have hkept : (Nat.toDigits 10 d.coefficient).rdropWhile (· = '0') ≠ [] := by
    rw [Ne, List.rdropWhile_eq_nil_iff]
    intro hzeros
    refine head?_toDigits h ?_
    cases hdigits : Nat.toDigits 10 d.coefficient with
    | nil => exact absurd hdigits Nat.toDigits_ne_nil
    | cons c cs => simpa using hzeros c (hdigits ▸ List.mem_cons_self)
  have hdigits : d.digits = (Nat.toDigits 10 d.coefficient).rdropWhile (· = '0') := by
    unfold digits
    dsimp only
    rw [if_neg (by simpa [List.rdropWhile] using hkept)]
    rfl
  exact ⟨hdigits, hdigits ▸ hkept⟩

/-- Zero has one digit. -/
lemma digits_zero (h : d.coefficient = 0) : d.digits = ['0'] := by
  unfold digits
  rw [h]
  rfl

/-- The digits of a decimal number are digits. -/
lemma isDigits_digits (d : Decimal) : IsDigits d.digits := by
  by_cases h : d.coefficient = 0
  · rw [digits_zero h]
    exact isDigits_zero
  · obtain ⟨hdigits, hne⟩ := digits_eq h
    rw [hdigits]
    refine ⟨hdigits ▸ hne, fun c hc => (isDigits_toDigits d.coefficient).2 c ?_⟩
    exact (List.rdropWhile_prefix _ _).subset hc

/-- The digits of a decimal number that is not zero do not begin with a zero. -/
lemma head?_digits (h : d.coefficient ≠ 0) : d.digits.head? ≠ some '0' := by
  obtain ⟨hdigits, hne⟩ := digits_eq h
  have hprefix : d.digits <+: Nat.toDigits 10 d.coefficient :=
    hdigits ▸ List.rdropWhile_prefix _ _
  obtain ⟨rest, hrest⟩ := hprefix
  have hhead := head?_toDigits h
  rwa [← hrest, List.head?_append_of_ne_nil _ hne] at hhead

end Decimal

namespace Notation

variable {n : Notation} {d : Decimal}

/-- The first digits of a decimal number with some zeros after them are those of a whole number. -/
lemma isWhole_take {w k : Nat} (h : d.coefficient = 0 → w = 0) :
    IsWhole ((d.digits ++ List.replicate k '0').take (w + 1)) := by
  obtain ⟨hne, hdigits⟩ := d.isDigits_digits
  obtain ⟨c, cs, hcs⟩ := List.exists_cons_of_ne_nil hne
  refine ⟨⟨by simp [hcs], fun c hc => ?_⟩, fun hzero => ?_⟩
  · rcases List.mem_append.1 (List.mem_of_mem_take hc) with hc | hc
    · exact hdigits c hc
    · exact isDigit_of_mem_replicate hc
  · by_cases hd : d.coefficient = 0
    · rw [h hd, Decimal.digits_zero hd]
      rfl
    · refine absurd ?_ (Decimal.head?_digits hd)
      simpa [hcs] using hzero

/-- **A decimal number is laid out as a numeral**, with a minus sign or without, unless it is a zero
that is said to have another power of ten. -/
theorem isNumeral_layout {sign : List Char} (hsign : sign ∈ [[], ['-']])
    (h : d.coefficient = 0 → d.exponent = 0) : IsNumeral (sign ++ n.layout d) := by
  have hdigits := d.isDigits_digits
  unfold layout
  dsimp only
  split
  next =>
    split
    next =>
      -- A number below one: a zero, a point, further zeros and the digits.
      exact ⟨sign, hsign, ['0'], '.' :: (List.replicate (d.exponent.natAbs - 1) '0' ++ d.digits), [],
        ⟨isDigits_zero, fun _ => rfl⟩, .inr ⟨_, hdigits.replicate_append _, rfl⟩, .inl rfl,
        by simp⟩
    next =>
      -- The digits before the point, filled up with zeros, and those after it.
      generalize hk : d.exponent.natAbs + 1 - d.digits.length = k
      have hwhole : IsWhole ((d.digits ++ List.replicate k '0').take (d.exponent.natAbs + 1)) :=
        isWhole_take fun hd => by rw [h hd]; rfl
      have hfraction : IsDigits
          (if ((d.digits ++ List.replicate k '0').drop (d.exponent.natAbs + 1)).isEmpty then ['0']
            else (d.digits ++ List.replicate k '0').drop (d.exponent.natAbs + 1)) := by
        split
        next => exact isDigits_zero
        next hne =>
          refine ⟨by simpa using hne, fun c hc => ?_⟩
          exact (List.mem_append.1 (List.mem_of_mem_drop hc)).elim (hdigits.2 c)
            isDigit_of_mem_replicate
      exact ⟨sign, hsign, _, _, [], hwhole, .inr ⟨_, hfraction, rfl⟩, .inl rfl,
        by simp only [List.append_nil, List.append_assoc]⟩
  next =>
    -- The first digit, the others after a point, and an exponent.
    obtain ⟨c, cs, hcs⟩ := List.exists_cons_of_ne_nil hdigits.1
    rw [hcs] at hdigits ⊢
    have hwhole : IsWhole [c] :=
      ⟨⟨List.cons_ne_nil _ _, by simpa using hdigits.2 c List.mem_cons_self⟩, fun hc => by
        rw [Option.some.inj hc]⟩
    have hfraction : IsFraction (if cs.isEmpty then [] else '.' :: cs) := by
      split
      next => exact .inl rfl
      next hne =>
        exact .inr ⟨cs, ⟨by simpa using hne, fun x hx => hdigits.2 x (List.mem_cons_of_mem _ hx)⟩,
          rfl⟩
    have hexponent : IsExponent ('e' :: (if d.exponent < 0 then '-' else '+') ::
        (List.replicate (n.exponentWidth - (Nat.toDigits 10 d.exponent.natAbs).length) '0' ++
          Nat.toDigits 10 d.exponent.natAbs)) := by
      refine .inr ⟨'e', by simp, [if d.exponent < 0 then '-' else '+'], ?_, _,
        (isDigits_toDigits _).replicate_append _, rfl⟩
      split <;> simp
    exact ⟨sign, hsign, [c], _, _, hwhole, hfraction, hexponent,
      by simp only [List.take_succ_cons, List.take_zero, List.drop_succ_cons, List.drop_zero,
        List.append_assoc]⟩

end Notation

/-! ## Doubles -/

namespace Binary64

/-- The numbers that are read back as a positive count lie above zero. -/
lemma low_pos {units : Nat} (h : units ≠ 0) : 0 < (neighbourhood units).low := by
  have hstep : Nat.pow 2 (units.log2 - 52) ≤ units :=
    Nat.le_trans (Nat.pow_le_pow_right (by decide) (Nat.sub_le _ _)) (Nat.log2_self_le h)
  unfold neighbourhood
  dsimp only
  split <;> omega

/-- Zero is not read back as a positive count. -/
lemma mem_zero {units den : Nat} (h : units ≠ 0) (hden : 0 < den) :
    (neighbourhood units).mem 0 den = false := by
  have hlow := Nat.mul_pos (low_pos h) hden
  unfold Neighbourhood.mem
  split
  · simp only [Bool.and_eq_false_iff, decide_eq_false_iff_not]
    omega
  · simp only [Bool.and_eq_false_iff, decide_eq_false_iff_not]
    omega

/-- The nearest decimal number that is read back as a positive count is not zero. -/
lemma coefficient_nearestDecimal? {units places : Nat} {d : Decimal} (hunits : units ≠ 0)
    (h : nearestDecimal? units places = some d) : d.coefficient ≠ 0 := by
  unfold nearestDecimal? at h
  extract_lets e power scale num den n reads c nearest other hit? at h
  have hzero : reads 0 = false := by
    by_cases hpower : power < 0
    · refine (if_pos hpower).trans ?_
      rw [Nat.zero_mul]
      exact mem_zero hunits (Nat.pow_pos (by decide))
    · refine (if_neg hpower).trans ?_
      rw [Nat.zero_mul, Nat.zero_mul]
      exact mem_zero hunits Nat.one_pos
  have hhit : ∀ c, hit? = some c → reads c = true := by
    intro c hc
    clear_value reads nearest other
    dsimp only [hit?] at hc
    split at hc
    next hnearest => rwa [← Option.some.inj hc]
    next =>
      obtain ⟨hother, hc⟩ := Option.ite_none_right_eq_some.1 hc
      rwa [← Option.some.inj hc]
  obtain ⟨c, hc, rfl⟩ := Option.map_eq_some_iff.1 h
  rintro rfl
  exact Bool.false_ne_true (hzero.symm.trans (hhit 0 hc))

/-- **The shortest digits of a positive count** are those of a number that is not zero, unless there
are none. -/
theorem coefficient_shortest {units : Nat} (h : units ≠ 0) :
    (shortest units).coefficient = 0 → (shortest units).exponent = 0 := by
  unfold shortest
  cases hfound : (List.range 17).findSome? (nearestDecimal? units) with
  | none => exact fun _ => rfl
  | some d =>
    obtain ⟨places, -, hplaces⟩ := List.exists_of_findSome?_eq_some hfound
    exact fun hzero => absurd hzero (coefficient_nearestDecimal? h hplaces)

end Binary64

/-- **Finite doubles are written as numerals.** -/
theorem Notation.isNumeral_write (n : Notation) {x : Binary64} (h : x.isFinite = true) :
    IsNumeral (n.write x).toList := by
  cases x with
  | nan => cases h
  | infinity => cases h
  | finite negative units _ =>
    have hmagnitude : ∀ sign ∈ [[], ['-']], IsNumeral (sign ++
        if units = 0 then n.layout ⟨0, 0⟩ else n.layout (Binary64.shortest units)) := by
      intro sign hsign
      split
      next => exact isNumeral_layout hsign fun _ => rfl
      next hunits => exact isNumeral_layout hsign (Binary64.coefficient_shortest hunits)
    unfold write
    dsimp only
    rw [String.toList_ofList]
    split
    · exact hmagnitude ['-'] (by simp)
    · exact hmagnitude [] (by simp)

/-- The other doubles are written with a letter that no numeral has. -/
lemma Notation.exists_letter_write {x : Binary64} (h : x.isFinite = false) :
    ∃ c ∈ (jsonNotation.write x).toList, c = 'N' ∨ c = 'I' := by
  cases x with
  | nan => exact ⟨'N', by decide, .inl rfl⟩
  | infinity negative =>
    refine ⟨'I', ?_, .inr rfl⟩
    cases negative <;> decide
  | finite => cases h

/-- No double is written with quotes. -/
lemma Notation.quote_notMem_write (x : Binary64) : '"' ∉ (jsonNotation.write x).toList := by
  cases x with
  | nan => decide
  | infinity negative => cases negative <;> decide
  | finite negative units hunits =>
    exact quote_notMem (isNumeral_write _ rfl)

end DataSchema
