import Mathlib.Algebra.Order.Field.Power
import Mathlib.Data.List.Induction
import Mathlib.Data.List.TakeWhile
import Mathlib.Data.Rat.Cast.Order
import Mathlib.Tactic.FieldSimp
import Mathlib.Tactic.Linarith
import Mathlib.Tactic.Ring
import DataSchema.Number.Numeral

set_option autoImplicit false

/-!
# Numerals as they are written

The texts that are read as numbers, with what they denote: an optional sign, digits of any script
with an optional point among them, and an optional exponent. A form keeps its parts apart, so that
it says at once which text it is and which rational number it stands for; reading a text finds the
one form that the text is.

## Main definitions

* `DataSchema.WrittenSign`, `DataSchema.WrittenExponent`, `DataSchema.WrittenNumeral` — signs,
  exponents and numerals as they are written.
* `DataSchema.WrittenNumeral.chars`, `DataSchema.WrittenNumeral.value` — the text of a numeral, and
  the rational number it denotes.
* `DataSchema.Numeral.value` — the rational number that has been read.

## Main results

* `DataSchema.Numeral.ofChars?_eq_some` — the texts that are read are those of the forms.
* `DataSchema.WrittenNumeral.value_numeral` — what is read of a form is what it denotes.
-/

namespace DataSchema

/-! ## Forms -/

/-- The sign of a numeral as it is written. -/
inductive WrittenSign
  /-- There is none. -/
  | absent
  /-- A plus sign. -/
  | plus
  /-- A minus sign. -/
  | minus
  deriving DecidableEq

namespace WrittenSign

/-- The sign as text. -/
def chars : WrittenSign → List Char
  | absent => []
  | plus => ['+']
  | minus => ['-']

/-- Whether a sign turns a number into its opposite. -/
def isMinus : WrittenSign → Bool
  | minus => true
  | _ => false

/-- What a sign multiplies a number by. -/
def factor (s : WrittenSign) : ℤ := if s.isMinus then -1 else 1

end WrittenSign

/-- An exponent as it is written: its letter, a sign, and digits. -/
structure WrittenExponent where
  /-- Whether the letter is a capital. -/
  capital : Bool
  /-- The sign. -/
  sign : WrittenSign
  /-- The digits. -/
  digits : List Char
  /-- There are digits. -/
  digits_ne_nil : digits ≠ []
  /-- The digits are digits. -/
  isDecimalDigit_of_mem : ∀ c ∈ digits, isDecimalDigit c = true

namespace WrittenExponent

/-- The exponent as text. -/
def chars (e : WrittenExponent) : List Char :=
  (if e.capital then 'E' else 'e') :: (e.sign.chars ++ e.digits)

/-- The power of ten that is written. -/
def value (e : WrittenExponent) : ℤ := e.sign.factor * digitsValue e.digits

end WrittenExponent

/-- A numeral as it is written: a sign, digits before a point and digits after it, and an exponent.
The point may be left out, and so may the digits on one side of it. -/
structure WrittenNumeral where
  /-- The sign. -/
  sign : WrittenSign
  /-- The digits before the point. -/
  whole : List Char
  /-- The digits after the point, if there is a point. -/
  fraction : Option (List Char)
  /-- The exponent, if there is one. -/
  exponent : Option WrittenExponent
  /-- The digits before the point are digits. -/
  isDecimalDigit_whole : ∀ c ∈ whole, isDecimalDigit c = true
  /-- The digits after the point are digits. -/
  isDecimalDigit_fraction : ∀ c ∈ fraction.getD [], isDecimalDigit c = true
  /-- There are digits. -/
  digits_ne_nil : whole ++ fraction.getD [] ≠ []

namespace WrittenNumeral

/-- The digits after the point. -/
def places (f : WrittenNumeral) : List Char := f.fraction.getD []

/-- The point and the digits after it, as text. -/
def pointed (f : WrittenNumeral) : List Char := f.fraction.elim [] ('.' :: ·)

/-- The exponent as text. -/
def exponentChars (f : WrittenNumeral) : List Char := f.exponent.elim [] WrittenExponent.chars

/-- The numeral as text. -/
def chars (f : WrittenNumeral) : List Char :=
  f.sign.chars ++ (f.whole ++ (f.pointed ++ f.exponentChars))

/-- The power of ten that is written, none being that of one. -/
def power (f : WrittenNumeral) : ℤ := f.exponent.elim 0 WrittenExponent.value

/-- The rational number that a numeral denotes. -/
def value (f : WrittenNumeral) : ℚ :=
  f.sign.factor * (digitsValue f.whole + digitsValue f.places / 10 ^ f.places.length) *
    10 ^ f.power

/-- What is read of a numeral. -/
def numeral (f : WrittenNumeral) : Numeral :=
  ⟨f.sign.isMinus, digitsValue (f.whole ++ f.places), f.power - f.places.length⟩

end WrittenNumeral

/-! ## Signs and digits at the start of a text -/

section

variable {cs ds rest : List Char}

/-- Characters of a kind at the start of a text are those before one of another kind. -/
lemma takeWhile_dropWhile_append {p : Char → Bool} (hds : ∀ c ∈ ds, p c = true)
    (hrest : ∀ c ∈ rest.head?, p c = false) :
    (ds ++ rest).takeWhile p = ds ∧ (ds ++ rest).dropWhile p = rest := by
  have hstop : rest.takeWhile p = [] ∧ rest.dropWhile p = rest := by
    cases rest with
    | nil => exact ⟨rfl, rfl⟩
    | cons c cs => simp [hrest c rfl]
  rw [List.takeWhile_append_of_pos hds, List.dropWhile_append_of_pos hds, hstop.1, hstop.2,
    List.append_nil]
  exact ⟨rfl, rfl⟩

/-- The digits at the start of a text are those before what is no digit. -/
lemma takeDigits_append (hds : ∀ c ∈ ds, isDecimalDigit c = true)
    (hrest : ∀ c ∈ rest.head?, isDecimalDigit c = false) : takeDigits (ds ++ rest) = (ds, rest) := by
  rw [takeDigits, (takeWhile_dropWhile_append hds hrest).1,
    (takeWhile_dropWhile_append hds hrest).2]

/-- The digits at the start of a text are digits, and the text goes on after them. -/
lemma append_of_takeDigits (h : takeDigits cs = (ds, rest)) :
    ds ++ rest = cs ∧ ∀ c ∈ ds, isDecimalDigit c = true := by
  obtain ⟨rfl, rfl⟩ := Prod.mk.inj h
  exact ⟨List.takeWhile_append_dropWhile, fun c hc => List.mem_takeWhile_imp hc⟩

/-- The sign at the start of a text is the one before what is no sign. -/
lemma takeSign_append (s : WrittenSign) (hrest : ∀ c ∈ rest.head?, c ≠ '+' ∧ c ≠ '-') :
    takeSign (s.chars ++ rest) = (s.isMinus, rest) := by
  cases s with
  | plus | minus => rfl
  | absent =>
    cases rest with
    | nil => rfl
    | cons c cs =>
      obtain ⟨hplus, hminus⟩ := hrest c rfl
      rw [WrittenSign.chars, List.nil_append, takeSign]
      · rfl
      · rintro cs heq
        exact hminus (List.cons.inj heq).1
      · rintro cs heq
        exact hplus (List.cons.inj heq).1

/-- The sign at the start of a text is a sign, and the text goes on after it. -/
lemma append_of_takeSign {negative : Bool} (h : takeSign cs = (negative, rest)) :
    ∃ s : WrittenSign, s.chars ++ rest = cs ∧ s.isMinus = negative := by
  unfold takeSign at h
  split at h <;> obtain ⟨rfl, rfl⟩ := Prod.mk.inj h
  · exact ⟨.minus, rfl, rfl⟩
  · exact ⟨.plus, rfl, rfl⟩
  · exact ⟨.absent, rfl, rfl⟩

/-- A digit is neither a sign nor a point. -/
lemma ne_of_isDecimalDigit {c : Char} (h : isDecimalDigit c = true) :
    (c ≠ '+' ∧ c ≠ '-') ∧ c ≠ '.' := by
  refine ⟨⟨?_, ?_⟩, ?_⟩ <;> rintro rfl <;> revert h <;> decide

/-- The digits after a point at the start of a text, and the rest. -/
def takeFraction : List Char → List Char × List Char
  | '.' :: cs => takeDigits cs
  | cs => ([], cs)

/-- The digits after a point are those before what is no digit and no further point. -/
lemma takeFraction_append {fraction : Option (List Char)}
    (hds : ∀ c ∈ fraction.getD [], isDecimalDigit c = true)
    (hrest : ∀ c ∈ rest.head?, isDecimalDigit c = false ∧ c ≠ '.') :
    takeFraction (fraction.elim [] ('.' :: ·) ++ rest) = (fraction.getD [], rest) := by
  cases fraction with
  | some ds => exact takeDigits_append hds fun c hc => (hrest c hc).1
  | none =>
    cases rest with
    | nil => rfl
    | cons c cs =>
      show takeFraction (c :: cs) = ([], c :: cs)
      rw [takeFraction]
      rintro cs heq
      exact (hrest c rfl).2 (List.cons.inj heq).1

/-- The digits after a point at the start of a text are digits, and the text goes on after them. -/
lemma append_of_takeFraction (h : takeFraction cs = (ds, rest)) :
    ∃ fraction : Option (List Char), fraction.elim [] ('.' :: ·) ++ rest = cs ∧
      fraction.getD [] = ds ∧ ∀ c ∈ fraction.getD [], isDecimalDigit c = true := by
  unfold takeFraction at h
  split at h
  next cs =>
    obtain ⟨rfl, hall⟩ := append_of_takeDigits h
    exact ⟨some ds, rfl, rfl, hall⟩
  next =>
    obtain ⟨rfl, rfl⟩ := Prod.mk.inj h
    exact ⟨none, rfl, rfl, by simp⟩

end

/-! ## Reading -/

namespace WrittenExponent

/-- An exponent that is written is read. -/
lemma exponent?_chars (e : WrittenExponent) : Numeral.exponent? e.chars = some e.value := by
  have hsign : takeSign (e.sign.chars ++ e.digits) = (e.sign.isMinus, e.digits) :=
    takeSign_append e.sign fun c hc =>
      (ne_of_isDecimalDigit (e.isDecimalDigit_of_mem c (List.mem_of_mem_head? hc))).1
  have hdigits : takeDigits e.digits = (e.digits, []) := by
    have hends : takeDigits (e.digits ++ []) = (e.digits, []) :=
      takeDigits_append e.isDecimalDigit_of_mem (by simp)
    rwa [List.append_nil] at hends
  have hsome : e.digits.isEmpty = false := List.isEmpty_eq_false_iff.2 e.digits_ne_nil
  have hletter : (if e.capital then 'E' else 'e') = 'e' ∨ (if e.capital then 'E' else 'e') = 'E' := by
    cases e.capital
    · exact .inl rfl
    · exact .inr rfl
  rw [chars, Numeral.exponent?, if_pos hletter, hsign]
  dsimp only
  rw [hdigits, hsome, value, WrittenSign.factor]
  cases e.sign.isMinus <;> simp

/-- What is read as an exponent is written as one, or there is nothing. -/
lemma of_exponent? {cs : List Char} {n : ℤ} (h : Numeral.exponent? cs = some n) :
    ∃ e : Option WrittenExponent, e.elim [] chars = cs ∧ e.elim 0 value = n := by
  cases cs with
  | nil => exact ⟨none, rfl, Option.some.inj h⟩
  | cons c cs =>
    rcases hsign : takeSign cs with ⟨negative, rest⟩
    rcases hdigits : takeDigits rest with ⟨ds, rest'⟩
    rw [Numeral.exponent?, hsign] at h
    dsimp only at h
    rw [hdigits] at h
    dsimp only at h
    obtain ⟨hletter, hread⟩ := Option.ite_none_right_eq_some.1 h
    obtain ⟨hfull, hvalue⟩ := Option.ite_none_left_eq_some.1 hread
    rw [Bool.or_eq_true, not_or, Bool.not_eq_true, Bool.not_eq_true, Bool.not_eq_false',
      List.isEmpty_eq_false_iff, List.isEmpty_iff] at hfull
    obtain ⟨hne, rfl⟩ := hfull
    obtain ⟨s, rfl, rfl⟩ := append_of_takeSign hsign
    obtain ⟨rfl, hall⟩ := append_of_takeDigits hdigits
    refine ⟨some ⟨c == 'E', s, ds, hne, hall⟩, ?_, ?_⟩
    · rcases hletter with rfl | rfl <;> simp [chars]
    · rw [← Option.some.inj hvalue, Option.elim_some, value, WrittenSign.factor]
      cases s.isMinus <;> simp

end WrittenExponent

namespace Numeral

/-- A numeral is read part by part. -/
lemma ofChars?_eq (cs : List Char) : ofChars? cs =
    (let signed := takeSign cs
     let whole := takeDigits signed.2
     let fraction := takeFraction whole.2
     if whole.1.isEmpty && fraction.1.isEmpty then none
     else (exponent? fraction.2).map fun e =>
       ⟨signed.1, digitsValue (whole.1 ++ fraction.1), e - fraction.1.length⟩) := by
  unfold ofChars? takeFraction
  rfl

end Numeral

namespace WrittenNumeral

variable (f : WrittenNumeral)

/-- An exponent begins with a letter, which is no digit and no point. -/
lemma head?_exponentChars {c : Char} (h : c ∈ f.exponentChars.head?) :
    isDecimalDigit c = false ∧ c ≠ '.' := by
  unfold exponentChars at h
  cases hexponent : f.exponent with
  | none => simp [hexponent] at h
  | some e =>
    have hletter : (if e.capital then 'E' else 'e') = c := by
      rw [hexponent] at h
      exact Option.some.inj h
    rw [← hletter]
    cases e.capital <;> decide

/-- After the digits before the point there is no digit. -/
lemma head?_pointed {c : Char} (h : c ∈ (f.pointed ++ f.exponentChars).head?) :
    isDecimalDigit c = false := by
  unfold pointed at h
  cases hfraction : f.fraction with
  | none =>
    rw [hfraction] at h
    exact (f.head?_exponentChars h).1
  | some ds =>
    rw [hfraction] at h
    obtain rfl := Option.some.inj h
    decide

/-- After the sign there is a digit or a point. -/
lemma head?_unsigned {c : Char} (h : c ∈ (f.whole ++ (f.pointed ++ f.exponentChars)).head?) :
    c ≠ '+' ∧ c ≠ '-' := by
  cases hwhole : f.whole with
  | cons d ds =>
    rw [hwhole] at h
    obtain rfl := Option.some.inj h
    exact (ne_of_isDecimalDigit (f.isDecimalDigit_whole d (hwhole ▸ List.mem_cons_self))).1
  | nil =>
    have hdigits := f.digits_ne_nil
    rw [hwhole] at h hdigits
    unfold pointed at h
    cases hfraction : f.fraction with
    | none => exact absurd (by simp [hfraction]) hdigits
    | some ds =>
      rw [hfraction] at h
      obtain rfl := Option.some.inj h
      decide

/-- What is read of a numeral that is written is what it says. -/
lemma ofChars?_chars : Numeral.ofChars? f.chars = some f.numeral := by
  have hexponent : Numeral.exponent? f.exponentChars = some f.power := by
    unfold exponentChars power
    cases f.exponent with
    | none => rfl
    | some e => exact e.exponent?_chars
  have hfraction : takeFraction (f.pointed ++ f.exponentChars) = (f.places, f.exponentChars) :=
    takeFraction_append f.isDecimalDigit_fraction fun c => f.head?_exponentChars
  have hwhole := takeDigits_append f.isDecimalDigit_whole fun c => f.head?_pointed
  have hsign := takeSign_append f.sign fun c => f.head?_unsigned
  have hsome : (f.whole.isEmpty && f.places.isEmpty) = false := by
    have hdigits := f.digits_ne_nil
    rw [Bool.eq_false_iff, Ne, Bool.and_eq_true, List.isEmpty_iff, List.isEmpty_iff]
    rintro ⟨hnil, hnone⟩
    exact hdigits (List.append_eq_nil_iff.2 ⟨hnil, hnone⟩)
  rw [Numeral.ofChars?_eq, chars, hsign]
  dsimp only
  rw [hwhole]
  dsimp only
  rw [hfraction]
  dsimp only
  rw [hsome, if_neg Bool.false_ne_true, hexponent]
  rfl

end WrittenNumeral

/-- **What is read as a numeral is written as one**, and the other way around. -/
theorem Numeral.ofChars?_eq_some {cs : List Char} {n : Numeral} :
    ofChars? cs = some n ↔ ∃ f : WrittenNumeral, f.chars = cs ∧ f.numeral = n := by
  constructor
  · intro h
    rcases hsign : takeSign cs with ⟨negative, rest⟩
    rcases hwhole : takeDigits rest with ⟨whole, rest'⟩
    rcases hfraction : takeFraction rest' with ⟨places, rest''⟩
    rw [ofChars?_eq, hsign] at h
    dsimp only at h
    rw [hwhole] at h
    dsimp only at h
    rw [hfraction] at h
    dsimp only at h
    obtain ⟨hsome, hread⟩ := Option.ite_none_left_eq_some.1 h
    obtain ⟨power, hpower, rfl⟩ := Option.map_eq_some_iff.1 hread
    obtain ⟨sign, rfl, rfl⟩ := append_of_takeSign hsign
    obtain ⟨rfl, hdigits⟩ := append_of_takeDigits hwhole
    obtain ⟨fraction, rfl, rfl, hplaces⟩ := append_of_takeFraction hfraction
    obtain ⟨exponent, rfl, rfl⟩ := WrittenExponent.of_exponent? hpower
    have hne : whole ++ fraction.getD [] ≠ [] := by
      intro hnil
      obtain ⟨hnone, hplain⟩ := List.append_eq_nil_iff.1 hnil
      exact hsome (by rw [hnone, hplain]; rfl)
    exact ⟨⟨sign, whole, fraction, exponent, hdigits, hplaces, hne⟩, rfl, rfl⟩
  · rintro ⟨f, rfl, rfl⟩
    exact f.ofChars?_chars

/-! ## What is denoted -/

/-- The rational number that has been read. -/
def Numeral.value (n : Numeral) : ℚ :=
  (if n.negative then -1 else 1) * n.coefficient * 10 ^ n.power

/-- Digits before others count for as many powers of ten as there are others. -/
lemma digitsValue_append (ds es : List Char) :
    digitsValue (ds ++ es) = digitsValue ds * 10 ^ es.length + digitsValue es := by
  induction es using List.reverseRecOn with
  | nil => simp [digitsValue]
  | append_singleton es c ih =>
    have hlast : ∀ xs, digitsValue (xs ++ [c]) =
        digitsValue xs * 10 + (decimalDigit? c).getD 0 := fun xs => by
      simp [digitsValue, List.foldl_append]
    rw [← List.append_assoc, hlast, hlast, ih, List.length_append, List.length_singleton]
    ring

/-- **What is read of a numeral is the number it denotes**: the digits after the point are read
along with those before it, and the power of ten makes up for them. -/
lemma WrittenNumeral.value_numeral (f : WrittenNumeral) : f.numeral.value = f.value := by
  have hten : (10 : ℚ) ≠ 0 := by norm_num
  have hsign : (if f.sign.isMinus then (-1 : ℚ) else 1) = f.sign.factor := by
    rw [WrittenSign.factor]
    cases f.sign.isMinus <;> simp
  rw [Numeral.value, numeral, value]
  dsimp only
  rw [hsign, digitsValue_append, zpow_sub₀ hten, zpow_natCast]
  push_cast
  field_simp

end DataSchema
