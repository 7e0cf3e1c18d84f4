import DataSchema.Proofs.Instants
import DataSchema.Proofs.ParsedNumbers

set_option autoImplicit false

/-!
# Timestamps as they are written

The texts that are read as timestamps, with what they denote: a date, a separator, an hour and a
minute, possibly a second with a fraction of any length, and possibly an offset. A form keeps its
parts apart, so that it says at once which text it is and which instant it stands for; reading a
text finds the one form that the text is.

## Main definitions

* `DataSchema.WrittenSecond`, `DataSchema.WrittenTimeOfDay`, `DataSchema.WrittenOffset`,
  `DataSchema.WrittenTime` — seconds, clocks, offsets and timestamps as they are written.
* `DataSchema.WrittenTime.chars`, `DataSchema.WrittenTime.instant` — the text of a timestamp, and
  the instant it denotes.

## Main results

* `DataSchema.asciiDigits?_eq_some` — digits of a given length are read as one number.
* `DataSchema.Timestamp.microseconds?_eq_some` — fractions are cut after six digits.
* `DataSchema.Timestamp.written?_eq_some` — the texts that are read are those of the forms.
-/

namespace DataSchema

/-! ## Digits of a given length -/

/-- A digit in front counts by its place. -/
lemma digitsValue_cons (c : Char) (ds : List Char) :
    digitsValue (c :: ds) = (decimalDigit? c).getD 0 * 10 ^ ds.length + digitsValue ds := by
  rw [← List.singleton_append, digitsValue_append]
  simp [digitsValue]

/-- ASCII digits are decimal digits. -/
lemma isDecimalDigit_of_isDigit {c : Char} (h : c.isDigit = true) : isDecimalDigit c = true := by
  rw [isDecimalDigit, decimalDigit?_of_isDigit h]
  rfl

/-- Digits of a given length are known by their value. -/
lemma eq_of_digitsValue {ds es : List Char} (hlength : ds.length = es.length)
    (hds : ∀ c ∈ ds, c.isDigit = true) (hes : ∀ c ∈ es, c.isDigit = true)
    (h : digitsValue ds = digitsValue es) : ds = es := by
  induction ds generalizing es with
  | nil => exact (List.eq_nil_of_length_eq_zero hlength.symm).symm
  | cons c ds ih =>
    obtain _ | ⟨d, es⟩ := es
    · cases hlength
    have hrests : ds.length = es.length := Nat.succ.inj hlength
    obtain ⟨hc, hds'⟩ := List.forall_mem_cons.1 hds
    obtain ⟨hd, hes'⟩ := List.forall_mem_cons.1 hes
    have hlt := digitsValue_lt fun x hx => isDecimalDigit_of_isDigit (hds' x hx)
    have hlt' := digitsValue_lt fun x hx => isDecimalDigit_of_isDigit (hes' x hx)
    rw [digitsValue_cons, digitsValue_cons, ← hrests, decimalDigit?_of_isDigit hc,
      decimalDigit?_of_isDigit hd, Option.getD_some, Option.getD_some] at h
    rw [← hrests] at hlt'
    have hrest : digitsValue ds = digitsValue es := by
      have hmod := congrArg (· % 10 ^ ds.length) h
      simpa only [Nat.mul_add_mod_self_right, Nat.mod_eq_of_lt hlt,
        Nat.mod_eq_of_lt hlt'] using hmod
    have hfirst : c.toNat - 48 = d.toNat - 48 := by
      rw [hrest] at h
      exact Nat.eq_of_mul_eq_mul_right (Nat.pow_pos (by decide)) (Nat.add_right_cancel h)
    obtain rfl : c = d := by
      have hcode := toNat_of_isDigit hc
      have hcode' := toNat_of_isDigit hd
      exact Char.toNat_inj.1 (by omega)
    rw [ih hrests hds' hes' hrest]

/-- **Digits of a given length** are read as the number that is written with them. -/
lemma asciiDigits?_eq_some {ds : List Char} {n : ℕ} (hsome : ds ≠ []) :
    asciiDigits? ds = some n ↔ ds = padded ds.length n ∧ n < 10 ^ ds.length := by
  have hpos : 0 < ds.length := List.length_pos_iff.2 hsome
  constructor
  · intro h
    unfold asciiDigits? at h
    split at h
    next hdigits =>
      obtain ⟨-, hall⟩ := Bool.and_eq_true_iff.1 hdigits
      have hds := List.all_eq_true.1 hall
      obtain rfl := Option.some.inj h
      have hlt := digitsValue_lt fun c hc => isDecimalDigit_of_isDigit (hds c hc)
      refine ⟨eq_of_digitsValue (length_padded hpos hlt).symm hds
        (fun c hc => isDigit_of_mem_padded hc) ?_, hlt⟩
      rw [padded, digitsValue_replicate_append, digitsValue_toDigits]
    next => cases h
  · rintro ⟨hds, hlt⟩
    rw [hds]
    exact asciiDigits?_padded hpos hlt

/-- Two digits are read as a number below one hundred. -/
lemma asciiDigits?_two {a b : Char} {n : ℕ} :
    asciiDigits? [a, b] = some n ↔ [a, b] = padded 2 n ∧ n < 100 :=
  asciiDigits?_eq_some (List.cons_ne_nil a [b])

/-! ## Dates -/

namespace Date

/-- A date is made of its parts. -/
lemma ofParts?_eq_some {y m d : ℕ} {date : Date} :
    ofParts? y m d = some date ↔ date.year = y ∧ date.month = m ∧ date.day = d := by
  unfold ofParts?
  constructor
  · intro h
    split at h
    next =>
      rw [← Option.some.inj h]
      exact ⟨rfl, rfl, rfl⟩
    next => cases h
  · rintro ⟨rfl, rfl, rfl⟩
    rw [dif_pos date.isDate]

/-- A text is read as a date exactly if it is the written form of it. -/
lemma ofChars?_eq_some {cs : List Char} {d : Date} : ofChars? cs = some d ↔ cs = d.chars := by
  constructor
  · intro h
    unfold ofChars? at h
    split at h
    next y₁ y₂ y₃ y₄ m₁ m₂ d₁ d₂ =>
      simp only [Option.bind_eq_bind, Option.bind_eq_some_iff] at h
      obtain ⟨y, hy, m, hm, day, hd, h⟩ := h
      obtain ⟨hyear, -⟩ := (asciiDigits?_eq_some (List.cons_ne_nil _ _)).1 hy
      obtain ⟨hmonth, -⟩ := asciiDigits?_two.1 hm
      obtain ⟨hday, -⟩ := asciiDigits?_two.1 hd
      obtain ⟨rfl, rfl, rfl⟩ := ofParts?_eq_some.1 h
      have hyear : padded 4 d.year = [y₁, y₂, y₃, y₄] := hyear.symm
      rw [chars, ← hmonth, ← hday, hyear]
      rfl
    next => cases h
  · rintro rfl
    exact d.ofChars?_chars

end Date

/-! ## Clocks -/

/-- The second of a clock as it is written, perhaps with a fraction of any length. The digits of a
fraction after the sixth are of any script, those before are ASCII digits. -/
structure WrittenSecond where
  /-- The second. -/
  second : ℕ
  /-- The digits of the fraction, if there is one. -/
  fraction : Option (List Char)
  second_lt : second < 60
  /-- A fraction has digits. -/
  fraction_ne : fraction ≠ some []
  /-- The digits of the fraction are digits. -/
  isDecimalDigit_of_mem : ∀ c ∈ fraction.getD [], isDecimalDigit c = true
  /-- The digits that count are ASCII digits. -/
  isDigit_of_mem : ∀ c ∈ (fraction.getD []).take 6, c.isDigit = true

namespace WrittenSecond

/-- The digits of the fraction. -/
def places (s : WrittenSecond) : List Char := s.fraction.getD []

/-- The second as text. -/
def chars (s : WrittenSecond) : List Char :=
  ':' :: (padded 2 s.second ++ s.fraction.elim [] ('.' :: ·))

/-- The fraction in millionths of a second, what is smaller being cut off. -/
def microsecond (s : WrittenSecond) : ℕ :=
  digitsValue s.places * 10 ^ 6 / 10 ^ s.places.length

/-- A fraction is less than a second. -/
lemma microsecond_lt (s : WrittenSecond) : s.microsecond < 1000000 := by
  have hlt := digitsValue_lt s.isDecimalDigit_of_mem
  rw [microsecond, Nat.div_lt_iff_lt_mul (Nat.pow_pos (by decide)), Nat.mul_comm]
  exact Nat.mul_lt_mul_of_pos_left hlt (by decide)

/-- Where there is no fraction, there are no millionths. -/
lemma microsecond_whole {s : WrittenSecond} (h : s.fraction = none) : s.microsecond = 0 := by
  rw [microsecond, places, h]
  exact (Nat.div_eq_of_lt (Nat.pow_pos (by decide)) : 0 * 10 ^ 6 / 10 ^ 0 = 0)

end WrittenSecond

/-- A clock as it is written: an hour and a minute, and perhaps a second. -/
structure WrittenTimeOfDay where
  /-- The hour. -/
  hour : ℕ
  /-- The minute. -/
  minute : ℕ
  /-- The second, if there is one. -/
  second : Option WrittenSecond
  hour_lt : hour < 24
  minute_lt : minute < 60

namespace WrittenTimeOfDay

/-- The clock as text. -/
def chars (c : WrittenTimeOfDay) : List Char :=
  padded 2 c.hour ++ ':' :: (padded 2 c.minute ++ c.second.elim [] WrittenSecond.chars)

/-- The second that a clock shows, none being the first. -/
def shownSecond (c : WrittenTimeOfDay) : ℕ := c.second.elim 0 WrittenSecond.second

/-- The millionths of a second that a clock shows. -/
def shownMicrosecond (c : WrittenTimeOfDay) : ℕ := c.second.elim 0 WrittenSecond.microsecond

/-- The time of day that a clock shows. -/
def clock (c : WrittenTimeOfDay) : Clock where
  hour := c.hour
  minute := c.minute
  second := c.shownSecond
  microsecond := c.shownMicrosecond
  hour_lt := c.hour_lt
  minute_lt := c.minute_lt
  second_lt := by
    unfold shownSecond
    cases c.second with
    | none => decide
    | some s => exact s.second_lt
  microsecond_lt := by
    unfold shownMicrosecond
    cases c.second with
    | none => decide
    | some s => exact s.microsecond_lt

end WrittenTimeOfDay

/-- The offset of a timestamp as it is written. -/
inductive WrittenOffset
  /-- There is none. -/
  | absent
  /-- The letter of universal time, large or small. -/
  | zulu (capital : Bool)
  /-- A sign, hours and minutes, with a colon between them or without; less than a day. -/
  | shift (west : Bool) (hours minutes : ℕ) (colon : Bool) (minutes_lt : minutes < 100)
    (lt_day : hours * 60 + minutes < 24 * 60)

namespace WrittenOffset

/-- The offset as text. -/
def chars : WrittenOffset → List Char
  | absent => []
  | zulu capital => [if capital then 'Z' else 'z']
  | shift west hours minutes colon _ _ =>
    (if west then '-' else '+') :: (padded 2 hours ++ ((if colon then [':'] else []) ++
      padded 2 minutes))

/-- The minutes by which the local clock is ahead. -/
def ahead : WrittenOffset → ℤ
  | absent | zulu _ => 0
  | shift west hours minutes _ _ _ =>
    if west then -(hours * 60 + minutes : ℤ) else hours * 60 + minutes

/-- An offset is less than a day. -/
lemma ahead_lt (o : WrittenOffset) : -86400 < o.ahead * 60 ∧ o.ahead * 60 < 86400 := by
  cases o with
  | absent | zulu _ => simp [ahead]
  | shift west hours minutes colon _ hlt =>
    unfold ahead
    cases west <;> simp only [Bool.false_eq_true, if_false, if_true] <;> omega

/-- The distance from universal time. -/
def offset (o : WrittenOffset) : Offset := ⟨o.ahead * 60, o.ahead_lt⟩

end WrittenOffset

/-- A timestamp as it is written. -/
structure WrittenTime where
  /-- The date. -/
  date : Date
  /-- The character between date and clock. -/
  separator : Char
  /-- The clock. -/
  clock : WrittenTimeOfDay
  /-- The offset. -/
  offset : WrittenOffset
  /-- The character in between is one of three. -/
  separates : separator = 'T' ∨ separator = 't' ∨ separator = ' '

namespace WrittenTime

/-- The timestamp as text. -/
def chars (w : WrittenTime) : List Char :=
  w.date.chars ++ w.separator :: (w.clock.chars ++ w.offset.chars)

/-- The instant that a timestamp denotes, in microseconds from the beginning of the calendar: its
days, hours and minutes less the offset, its seconds and their millionths. -/
def instant (w : WrittenTime) : ℤ :=
  (((w.date.daysBefore * 24 + w.clock.hour) * 60 + w.clock.minute - w.offset.ahead) * 60 +
    w.clock.shownSecond) * 1000000 + w.clock.shownMicrosecond

/-- What is read of a timestamp. -/
def dateTime (w : WrittenTime) : DateTime := ⟨w.date, w.clock.clock, some w.offset.offset⟩

/-- What is read of a timestamp is at the instant that it denotes. -/
lemma instant_dateTime (w : WrittenTime) : w.dateTime.instant = w.instant := by
  simp only [DateTime.instant, DateTime.elapsed, DateTime.ahead, dateTime, Clock.seconds,
    WrittenTimeOfDay.clock, WrittenOffset.offset, Option.map_some, Option.getD_some, instant]
  push_cast
  ring

end WrittenTime

/-! ## Reading the forms -/

namespace Clock

/-- A time of day is made of its parts. -/
lemma ofParts?_eq_some {h m s us : ℕ} {c : Clock} : ofParts? h m s us = some c ↔
    c.hour = h ∧ c.minute = m ∧ c.second = s ∧ c.microsecond = us := by
  unfold ofParts?
  constructor
  · intro hparts
    split at hparts
    next =>
      rw [← Option.some.inj hparts]
      exact ⟨rfl, rfl, rfl, rfl⟩
    next => cases hparts
  · rintro ⟨rfl, rfl, rfl, rfl⟩
    rw [dif_pos ⟨c.hour_lt, c.minute_lt, c.second_lt, c.microsecond_lt⟩]

end Clock

namespace Timestamp

variable {cs ds : List Char}

/-- Digits filled up with zeros and cut after the sixth count millionths, what is smaller being cut
off. -/
lemma digitsValue_take_six (hds : ∀ c ∈ ds, isDecimalDigit c = true) :
    digitsValue ((ds ++ List.replicate 6 '0').take 6) =
      digitsValue ds * 10 ^ 6 / 10 ^ ds.length := by
  rcases Nat.lt_or_ge 6 ds.length with hlong | hshort
  · have hrest := digitsValue_lt fun c hc => hds c (List.mem_of_mem_drop (i := 6) hc)
    have hpow : 10 ^ ds.length = 10 ^ (ds.length - 6) * 10 ^ 6 := by
      rw [← Nat.pow_add, Nat.sub_add_cancel hlong.le]
    rw [List.length_drop] at hrest
    calc digitsValue ((ds ++ List.replicate 6 '0').take 6)
      _ = digitsValue (ds.take 6) := by rw [List.take_append_of_le_length hlong.le]
      _ = (10 ^ (ds.length - 6) * digitsValue (ds.take 6) + digitsValue (ds.drop 6)) /
            10 ^ (ds.length - 6) := by
          rw [Nat.mul_add_div (Nat.pow_pos (by decide)), Nat.div_eq_of_lt hrest, Nat.add_zero]
      _ = digitsValue ds / 10 ^ (ds.length - 6) := by
          conv_rhs => rw [← List.take_append_drop 6 ds, digitsValue_append, List.length_drop,
            List.length_append, List.length_take, List.length_drop]
          rw [Nat.mul_comm]
          congr 2
          omega
      _ = digitsValue ds * 10 ^ 6 / 10 ^ ds.length := by
          rw [hpow, Nat.mul_div_mul_right _ _ (by decide)]
  · have hzeros : digitsValue (List.replicate (6 - ds.length) '0') = 0 := by
      have hvalue := digitsValue_replicate_append (6 - ds.length) []
      rwa [List.append_nil] at hvalue
    have hpow : 10 ^ 6 = 10 ^ (6 - ds.length) * 10 ^ ds.length := by
      rw [← Nat.pow_add, Nat.sub_add_cancel hshort]
    rw [List.take_append, List.take_of_length_le hshort, List.take_replicate,
      Nat.min_eq_left (Nat.sub_le 6 _), digitsValue_append, hzeros, List.length_replicate,
      Nat.add_zero, hpow, ← Nat.mul_assoc, Nat.mul_div_cancel _ (Nat.pow_pos (by decide))]

/-- **Fractions are cut after six digits.** -/
lemma microseconds?_eq_some {us : ℕ} : microseconds? ds = some us ↔
    ds ≠ [] ∧ (∀ c ∈ ds, isDecimalDigit c = true) ∧ (∀ c ∈ ds.take 6, c.isDigit = true) ∧
      digitsValue ds * 10 ^ 6 / 10 ^ ds.length = us := by
  have hsome : ((ds ++ List.replicate 6 '0').take 6).isEmpty = false := by
    cases ds <;> rfl
  have hdigits : ((ds ++ List.replicate 6 '0').take 6).all Char.isDigit = true ↔
      ∀ c ∈ ds.take 6, c.isDigit = true := by
    rw [List.all_eq_true, List.take_append]
    refine ⟨fun h c hc => h c (List.mem_append_left _ hc), fun h c hc => ?_⟩
    rcases List.mem_append.1 hc with hc | hc
    · exact h c hc
    · rw [List.eq_of_mem_replicate (List.mem_of_mem_take hc)]
      rfl
  unfold microseconds?
  by_cases hall : ds ≠ [] ∧ ∀ c ∈ ds, isDecimalDigit c = true
  · have hread : (ds.isEmpty || !ds.all isDecimalDigit) = false := by
      rw [List.isEmpty_eq_false_iff.2 hall.1, List.all_eq_true.2 hall.2]
      rfl
    rw [hread, if_neg Bool.false_ne_true, asciiDigits?, hsome, digitsValue_take_six hall.2,
      and_iff_right hall.1, and_iff_right hall.2]
    simp only [Bool.not_false, Bool.true_and, hdigits, Option.ite_none_right_eq_some,
      Option.some.injEq]
  · have hread : (ds.isEmpty || !ds.all isDecimalDigit) = true := by
      by_contra hne
      simp only [Bool.or_eq_true, not_or, List.isEmpty_iff, Bool.not_eq_true', Bool.not_eq_false,
        List.all_eq_true] at hne
      exact hall hne
    rw [hread, if_pos rfl]
    exact iff_of_false (Option.some_ne_none us).symm fun h => hall ⟨h.1, h.2.1⟩

/-! ## Clocks and offsets -/

/-- The second and its millionths that the text after the minute of a clock shows. -/
def second? : List Char → Option (ℕ × ℕ)
  | [] => some (0, 0)
  | [':', s₁, s₂] => (asciiDigits? [s₁, s₂]).map (·, 0)
  | ':' :: s₁ :: s₂ :: '.' :: fraction =>
    (asciiDigits? [s₁, s₂]).bind fun s => (microseconds? fraction).map (s, ·)
  | _ => none

/-- **A second is read** from the texts that show it. -/
lemma second?_eq_some {s us : ℕ} (hs : s < 60) : second? cs = some (s, us) ↔
    ∃ w : Option WrittenSecond, w.elim [] WrittenSecond.chars = cs ∧
      w.elim 0 WrittenSecond.second = s ∧ w.elim 0 WrittenSecond.microsecond = us := by
  constructor
  · intro h
    unfold second? at h
    split at h
    next =>
      obtain ⟨rfl, rfl⟩ := Prod.mk.inj (Option.some.inj h)
      exact ⟨none, rfl, rfl, rfl⟩
    next s₁ s₂ =>
      obtain ⟨second, hsecond, h⟩ := Option.map_eq_some_iff.1 h
      obtain ⟨rfl, rfl⟩ := Prod.mk.inj h
      refine ⟨some ⟨second, none, hs, by simp, by simp, by simp⟩, ?_, rfl,
        WrittenSecond.microsecond_whole rfl⟩
      exact congrArg (':' :: · ++ []) (asciiDigits?_two.1 hsecond).1.symm
    next s₁ s₂ fraction =>
      obtain ⟨second, hsecond, h⟩ := Option.bind_eq_some_iff.1 h
      obtain ⟨millionths, hfraction, h⟩ := Option.map_eq_some_iff.1 h
      obtain ⟨rfl, rfl⟩ := Prod.mk.inj h
      obtain ⟨hne, hall, hfirst, hvalue⟩ := microseconds?_eq_some.1 hfraction
      refine ⟨some ⟨second, some fraction, hs, by simpa using hne, hall, hfirst⟩, ?_, rfl, hvalue⟩
      exact congrArg (':' :: · ++ '.' :: fraction) (asciiDigits?_two.1 hsecond).1.symm
    next => cases h
  · rintro ⟨_ | ⟨second, fraction, hsecond, hne, hall, hfirst⟩, rfl, rfl, rfl⟩
    · rfl
    obtain ⟨s₁, s₂, hchars, hread⟩ := padded_two (Nat.lt_trans hsecond (by decide))
    cases fraction with
    | none =>
      simp only [Option.elim, WrittenSecond.chars, hchars, List.append_nil, second?, hread,
        WrittenSecond.microsecond_whole]
      rfl
    | some ds =>
      have hfraction := microseconds?_eq_some.2 ⟨fun h => hne (congrArg some h), hall, hfirst, rfl⟩
      simp only [Option.elim, WrittenSecond.chars, hchars, List.cons_append, List.nil_append,
        second?, hread, Option.bind_some]
      exact congrArg (Option.map _) hfraction

/-- A clock is read as an hour, a minute, and what comes after them. -/
lemma clock?_eq (cs : List Char) : clock? cs = match cs with
    | h₁ :: h₂ :: ':' :: m₁ :: m₂ :: rest =>
      (asciiDigits? [h₁, h₂]).bind fun h => (asciiDigits? [m₁, m₂]).bind fun m =>
        (second? rest).bind fun s => Clock.ofParts? h m s.1 s.2
    | _ => none := by
  unfold clock?
  split
  next => rfl
  next =>
    simp only [second?, Option.bind_map]
    rfl
  next =>
    simp only [second?, Option.bind_map, Option.bind_assoc]
    rfl
  next hminutes hseconds hfraction =>
    split
    next rest =>
      have hnone : second? rest = none := by
        unfold second?
        split
        · exact absurd rfl (hminutes _ _ _ _)
        · exact absurd rfl (hseconds _ _ _ _ _ _)
        · exact absurd rfl (hfraction _ _ _ _ _ _ _)
        · rfl
      simp only [hnone, Option.bind_none, Option.bind_fun_none]
    next => rfl

/-- **A text is read as a time of day** exactly if it is a clock that shows that time. -/
lemma clock?_eq_some {c : Clock} :
    clock? cs = some c ↔ ∃ w : WrittenTimeOfDay, w.chars = cs ∧ w.clock = c := by
  rw [clock?_eq]
  constructor
  · intro h
    split at h
    next h₁ h₂ m₁ m₂ rest =>
      simp only [Option.bind_eq_some_iff] at h
      obtain ⟨hour, hh, minute, hm, ⟨second, us⟩, hs, h⟩ := h
      obtain ⟨hhour, -⟩ := asciiDigits?_two.1 hh
      obtain ⟨hminute, -⟩ := asciiDigits?_two.1 hm
      obtain ⟨rfl, rfl, rfl, rfl⟩ := Clock.ofParts?_eq_some.1 h
      obtain ⟨w, rfl, hsecond, hus⟩ := (second?_eq_some c.second_lt).1 hs
      refine ⟨⟨c.hour, c.minute, w, c.hour_lt, c.minute_lt⟩, ?_, ?_⟩
      · rw [WrittenTimeOfDay.chars, ← hhour, ← hminute]
        rfl
      · obtain ⟨_, _, _, _, _, _, _, _⟩ := c
        obtain rfl := hsecond
        obtain rfl := hus
        rfl
    next => cases h
  · rintro ⟨w, rfl, rfl⟩
    obtain ⟨h₁, h₂, hh, hhour⟩ := padded_two (Nat.lt_trans w.hour_lt (by decide))
    obtain ⟨m₁, m₂, hm, hminute⟩ := padded_two (Nat.lt_trans w.minute_lt (by decide))
    have hsecond := (second?_eq_some w.clock.second_lt).2 ⟨w.second, rfl, rfl, rfl⟩
    rw [WrittenTimeOfDay.chars, hh, hm]
    simp only [List.cons_append, List.nil_append, hhour, hminute, hsecond, Option.bind_some]
    exact w.clock.ofParts?_self

/-- The seconds of an offset with a sign, hours and minutes. -/
def shiftSeconds? (sign : Char) (hours minutes : List Char) : Option ℤ :=
  (asciiDigits? hours).bind fun h => (asciiDigits? minutes).bind fun m =>
    if sign = '+' then some ((h * 3600 + m * 60 : ℕ) : ℤ)
    else if sign = '-' then some (-((h * 3600 + m * 60 : ℕ) : ℤ))
    else none

/-- Hours and minutes may stand with a colon between them or without. -/
lemma offsetSeconds?_shift (sign h₁ h₂ m₁ m₂ : Char) (colon : Bool) :
    offsetSeconds? (sign :: h₁ :: h₂ :: ((if colon then [':'] else []) ++ [m₁, m₂])) =
      shiftSeconds? sign [h₁, h₂] [m₁, m₂] := by
  cases colon
  · simp only [Bool.false_eq_true, if_false, List.nil_append, offsetSeconds?]
    rfl
  · simp only [if_true, List.cons_append, List.nil_append, offsetSeconds?]
    rfl

/-- A sign, hours and minutes that come to less than a day are an offset. -/
lemma exists_of_shiftSeconds? {sign h₁ h₂ m₁ m₂ : Char} {o : Offset} (colon : Bool)
    (h : shiftSeconds? sign [h₁, h₂] [m₁, m₂] = some o.seconds) : ∃ w : WrittenOffset,
      w.chars = sign :: h₁ :: h₂ :: ((if colon then [':'] else []) ++ [m₁, m₂]) ∧
        w.offset = o := by
  simp only [shiftSeconds?, Option.bind_eq_some_iff] at h
  obtain ⟨hours, hh, minutes, hm, h⟩ := h
  obtain ⟨hhours, -⟩ := asciiDigits?_two.1 hh
  obtain ⟨hminutes, hlt⟩ := asciiDigits?_two.1 hm
  obtain ⟨seconds, hday⟩ := o
  dsimp only at h
  split at h
  next hsign =>
    obtain rfl := Option.some.inj h
    refine ⟨.shift false hours minutes colon hlt (by omega), ?_, ?_⟩
    · rw [WrittenOffset.chars, ← hhours, ← hminutes, hsign]
      rfl
    · simp only [WrittenOffset.offset, WrittenOffset.ahead, Offset.mk.injEq, Bool.false_eq_true,
        if_false]
      push_cast
      ring
  next =>
    split at h
    next hsign =>
      obtain rfl := Option.some.inj h
      refine ⟨.shift true hours minutes colon hlt (by omega), ?_, ?_⟩
      · rw [WrittenOffset.chars, ← hhours, ← hminutes, hsign]
        rfl
      · simp only [WrittenOffset.offset, WrittenOffset.ahead, Offset.mk.injEq, if_true]
        push_cast
        ring
    next => cases h

/-- **An offset that is written is read.** -/
lemma offsetSeconds?_chars (w : WrittenOffset) :
    offsetSeconds? w.chars = some w.offset.seconds := by
  cases w with
  | absent => rfl
  | zulu capital => cases capital <;> rfl
  | shift west hours minutes colon hlt hday =>
    obtain ⟨h₁, h₂, hh, hhours⟩ := padded_two (show hours < 100 by omega)
    obtain ⟨m₁, m₂, hm, hminutes⟩ := padded_two hlt
    have hseconds : shiftSeconds? (if west then '-' else '+') [h₁, h₂] [m₁, m₂] =
        some (WrittenOffset.shift west hours minutes colon hlt hday).offset.seconds := by
      simp only [shiftSeconds?, hhours, hminutes, Option.bind_some, WrittenOffset.offset,
        WrittenOffset.ahead]
      cases west
      · simp only [Bool.false_eq_true, if_false, if_true, Option.some.injEq]
        push_cast
        ring
      · rw [if_pos rfl, if_neg (by decide), if_pos rfl, if_pos rfl, Option.some.injEq]
        push_cast
        ring
    rw [WrittenOffset.chars, hh, hm, ← hseconds]
    exact offsetSeconds?_shift _ _ _ _ _ colon

/-- **A text is read as an offset** exactly if the offset is written so. -/
lemma offset?_eq_some {o : Offset} : (offsetSeconds? cs).bind Offset.ofSeconds? = some o ↔
    ∃ w : WrittenOffset, w.chars = cs ∧ w.offset = o := by
  have hoffset : ∀ n, Offset.ofSeconds? n = some o ↔ o.seconds = n := by
    intro n
    unfold Offset.ofSeconds?
    constructor
    · intro h
      split at h
      next => rw [← Option.some.inj h]
      next => cases h
    · rintro rfl
      rw [dif_pos o.lt_day]
  rw [Option.bind_eq_some_iff]
  simp only [hoffset]
  constructor
  · rintro ⟨n, h, rfl⟩
    unfold offsetSeconds? at h
    split at h
    next => exact ⟨.absent, rfl, Offset.mk.injEq .. ▸ (Option.some.inj h)⟩
    next => exact ⟨.zulu true, rfl, Offset.mk.injEq .. ▸ (Option.some.inj h)⟩
    next => exact ⟨.zulu false, rfl, Offset.mk.injEq .. ▸ (Option.some.inj h)⟩
    next => exact exists_of_shiftSeconds? true h
    next => exact exists_of_shiftSeconds? false h
    next => cases h
  · rintro ⟨w, rfl, rfl⟩
    exact ⟨_, offsetSeconds?_chars w, rfl⟩

/-! ## Timestamps -/

/-- The characters of a clock are digits, colons and a point. -/
lemma isClockChar_of_mem_clock {w : WrittenTimeOfDay} {c : Char} (h : c ∈ w.chars) :
    isClockChar c = true := by
  have hpadded : ∀ {n}, c ∈ padded 2 n → isClockChar c = true := fun hc => by
    rw [isClockChar, isDecimalDigit_of_isDigit (isDigit_of_mem_padded hc), Bool.true_or,
      Bool.true_or]
  have hcolon : isClockChar ':' = true := by decide
  have hpoint : isClockChar '.' = true := by decide
  obtain ⟨hour, minute, second, _, _⟩ := w
  simp only [WrittenTimeOfDay.chars, List.mem_append, List.mem_cons] at h
  rcases h with h | rfl | h | h
  · exact hpadded h
  · exact hcolon
  · exact hpadded h
  obtain _ | ⟨second, fraction, _, _, hall, _⟩ := second
  · cases h
  simp only [Option.elim, WrittenSecond.chars, List.mem_cons, List.mem_append] at h
  rcases h with rfl | h | h
  · exact hcolon
  · exact hpadded h
  obtain _ | ds := fraction
  · cases h
  rcases List.mem_cons.1 h with rfl | h
  · exact hpoint
  · rw [isClockChar, hall c h, Bool.true_or, Bool.true_or]

/-- An offset begins with a character that ends a clock. -/
lemma isClockChar_head_offset {w : WrittenOffset} {c : Char} (h : c ∈ w.chars.head?) :
    isClockChar c = false := by
  cases w with
  | absent => cases h
  | zulu capital =>
    obtain rfl := Option.some.inj h
    cases capital <;> decide
  | shift west hours minutes colon _ _ =>
    obtain rfl := Option.some.inj h
    cases west <;> decide

/-- **A text is read as a timestamp** exactly if the timestamp is written so.

**Proof sketch.** The date has ten characters, and the clock is the longest run of characters of a
clock after the separator; the forms of the three parts are those that are read. -/
theorem written?_eq_some {t : DateTime} :
    written? cs = some t ↔ ∃ w : WrittenTime, w.chars = cs ∧ w.dateTime = t := by
  unfold written?
  simp only [Option.bind_eq_bind, Option.bind_eq_some_iff]
  constructor
  · rintro ⟨date, hdate, h⟩
    split at h
    next separator rest hdrop =>
      split at h
      next hseparates =>
        simp only [Option.bind_eq_some_iff] at h
        obtain ⟨clock, hclock, seconds, hseconds, offset, hoffset, h⟩ := h
        obtain ⟨c, hc, rfl⟩ := clock?_eq_some.1 hclock
        obtain ⟨o, ho, rfl⟩ :=
          offset?_eq_some.1 (Option.bind_eq_some_iff.2 ⟨seconds, hseconds, hoffset⟩)
        refine ⟨⟨date, separator, c, o, hseparates⟩, ?_, Option.some.inj h⟩
        rw [WrittenTime.chars, hc, ho, List.takeWhile_append_dropWhile, ← hdrop,
          ← Date.ofChars?_eq_some.1 hdate, List.take_append_drop]
      next => cases h
    next => cases h
  · rintro ⟨w, rfl, rfl⟩
    have hlength := w.date.length_chars
    refine ⟨w.date, ?_, ?_⟩
    · rw [WrittenTime.chars, List.take_left' hlength, w.date.ofChars?_chars]
    · obtain ⟨htake, hdrop⟩ := takeWhile_dropWhile_append
        (fun _ => isClockChar_of_mem_clock (w := w.clock))
        (fun _ => isClockChar_head_offset (w := w.offset))
      rw [WrittenTime.chars, List.drop_left' hlength]
      dsimp only
      rw [if_pos w.separates, htake, hdrop]
      simp only [Option.bind_eq_some_iff]
      obtain ⟨seconds, hseconds, hoffset⟩ :=
        Option.bind_eq_some_iff.1 (offset?_eq_some.2 ⟨w.offset, rfl, rfl⟩)
      exact ⟨_, clock?_eq_some.2 ⟨w.clock, rfl, rfl⟩, seconds, hseconds, _, hoffset, rfl⟩

end Timestamp

end DataSchema
