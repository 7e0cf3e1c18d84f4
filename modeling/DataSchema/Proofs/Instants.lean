import Mathlib.Algebra.BigOperators.Intervals
import Mathlib.Algebra.Order.BigOperators.Group.Finset
import DataSchema.Proofs.Rendering

set_option autoImplicit false

/-!
# Counting days and instants

The days of the calendar counted one after another: the lengths of the years that are over, the
lengths of the months that are over, and the days of the month that are over. With the time of day
and the offset this gives the instant of a date with a time, in microseconds from the beginning of
the calendar. A date is known by its count, the neighbouring days are one away, and the same instant
in universal time is there exactly if the calendar has it.

## Main definitions

* `DataSchema.Date.daysBefore` — the days of the calendar before a date.
* `DataSchema.DateTime.instant` — the microseconds from the beginning of the calendar, in universal
  time.
* `DataSchema.OnCalendar` — instants that the calendar has.

## Main results

* `DataSchema.Date.daysBefore_injective` — a date is known by the days before it.
* `DataSchema.Date.ordinal_eq` — the number of a day counts it and the days before it.
* `DataSchema.DateTime.toUtc?_eq_some` — the same instant in universal time.
* `DataSchema.DateTime.toUtc?_eq_none` — the instants that are off the calendar.
-/

namespace DataSchema

open Finset

/-! ## Counting by lengths -/

section

variable {f : ℕ → ℕ} {a b r q : ℕ}

/-- A place within a stretch comes before every later stretch. -/
lemma sum_add_lt (ha : 1 ≤ a) (hab : a < b) (hr : r < f a) :
    ∑ k ∈ Ico 1 a, f k + r < ∑ k ∈ Ico 1 b, f k := by
  calc ∑ k ∈ Ico 1 a, f k + r < ∑ k ∈ Ico 1 a, f k + f a := Nat.add_lt_add_left hr _
    _ = ∑ k ∈ Ico 1 (a + 1), f k := (sum_Ico_succ_top ha f).symm
    _ ≤ ∑ k ∈ Ico 1 b, f k := sum_le_sum_of_subset (Ico_subset_Ico_right hab)

/-- A stretch and a place within it are known by what comes before the place. -/
lemma sum_add_inj (ha : 1 ≤ a) (hb : 1 ≤ b) (hr : r < f a) (hq : q < f b)
    (h : ∑ k ∈ Ico 1 a, f k + r = ∑ k ∈ Ico 1 b, f k + q) : a = b ∧ r = q := by
  rcases lt_trichotomy a b with hab | rfl | hab
  · have hlt := sum_add_lt ha hab hr
    omega
  · exact ⟨rfl, Nat.add_left_cancel h⟩
  · have hlt := sum_add_lt hb hab hq
    omega

end

/-! ## Days -/

/-- The number of days of a year. -/
def daysInYear (y : ℕ) : ℕ := if isLeapYear y then 366 else 365

/-- The months make up the year. -/
lemma sum_daysInMonth (y : ℕ) : ∑ m ∈ Ico 1 13, daysInMonth y m = daysInYear y := by
  unfold daysInYear
  cases hleap : isLeapYear y <;> simp [sum_Ico_succ_top, daysInMonth, hleap]

/-- The number of days of the calendar, from the first of the year 1 to the last of the year
9999. -/
def calendarDays : ℕ := ∑ y ∈ Ico 1 10000, daysInYear y

namespace Date

/-- The days of the year before a date. -/
def daysOfYearBefore (d : Date) : ℕ := ∑ m ∈ Ico 1 d.month, daysInMonth d.year m + (d.day - 1)

/-- The days of the calendar before a date. -/
def daysBefore (d : Date) : ℕ := ∑ y ∈ Ico 1 d.year, daysInYear y + d.daysOfYearBefore

variable {d e : Date}

/-- A date lies within its month. -/
lemma day_pred_lt (d : Date) : d.day - 1 < daysInMonth d.year d.month := by
  obtain ⟨-, -, -, -, hday, hdays⟩ := d.isDate
  omega

/-- A date lies within its year. -/
lemma daysOfYearBefore_lt (d : Date) : d.daysOfYearBefore < daysInYear d.year := by
  obtain ⟨-, -, hmonth, hmonths, -, -⟩ := d.isDate
  rw [← sum_daysInMonth]
  exact sum_add_lt hmonth (Nat.lt_succ_of_le hmonths) d.day_pred_lt

/-- A date lies within the calendar. -/
lemma daysBefore_lt (d : Date) : d.daysBefore < calendarDays := by
  obtain ⟨hyear, hyears, -⟩ := d.isDate
  exact sum_add_lt hyear (Nat.lt_succ_of_le hyears) d.daysOfYearBefore_lt

/-- **A date is known by the days before it.** -/
theorem daysBefore_injective : Function.Injective daysBefore := by
  intro d e h
  obtain ⟨hyear, hofYear⟩ := sum_add_inj d.isDate.1 e.isDate.1 d.daysOfYearBefore_lt
    e.daysOfYearBefore_lt h
  obtain ⟨dy, dm, dd, hd⟩ := d
  obtain ⟨ey, em, ed, he⟩ := e
  obtain rfl : dy = ey := hyear
  obtain ⟨rfl, hday⟩ := sum_add_inj hd.2.2.1 he.2.2.1 (day_pred_lt ⟨dy, dm, dd, hd⟩)
    (day_pred_lt ⟨dy, em, ed, he⟩) hofYear
  obtain rfl : dd = ed := by
    have hfirst : 1 ≤ dd := hd.2.2.2.2.1
    have hfirst' : 1 ≤ ed := he.2.2.2.2.1
    dsimp only at hday
    omega
  rfl

/-- The days before the first of a month. -/
lemma daysBefore_first {y m : ℕ} (h : IsDate y m 1) :
    daysBefore ⟨y, m, 1, h⟩ = ∑ k ∈ Ico 1 y, daysInYear k + ∑ k ∈ Ico 1 m, daysInMonth y k := rfl

/-- The first of the next month comes after all days of this one. -/
lemma daysBefore_lastOfMonth (hday : d.day = daysInMonth d.year d.month) :
    d.daysBefore + 1 =
      ∑ k ∈ Ico 1 d.year, daysInYear k + ∑ k ∈ Ico 1 (d.month + 1), daysInMonth d.year k := by
  obtain ⟨-, -, hmonth, -, hfirst, -⟩ := d.isDate
  rw [sum_Ico_succ_top hmonth, daysBefore, daysOfYearBefore]
  omega

/-- The first of the next year comes after all days of this one. -/
lemma daysBefore_lastOfYear (hmonth : d.month = 12) (hday : d.day = daysInMonth d.year d.month) :
    d.daysBefore + 1 = ∑ k ∈ Ico 1 (d.year + 1), daysInYear k := by
  rw [daysBefore_lastOfMonth hday, hmonth, sum_daysInMonth, sum_Ico_succ_top d.isDate.1]

/-- **The day after a date** has one day more before it, and only the last day of the calendar has
none. -/
lemma next?_cases (d : Date) :
    (∃ e, d.next? = some e ∧ e.daysBefore = d.daysBefore + 1) ∨
      d.next? = none ∧ d.daysBefore + 1 = calendarDays := by
  obtain ⟨hyear, hyears, hmonth, hmonths, hfirst, hlast⟩ := d.isDate
  unfold next?
  by_cases hday : d.day < daysInMonth d.year d.month
  · have hdate : IsDate d.year d.month (d.day + 1) :=
      ⟨hyear, hyears, hmonth, hmonths, by omega, hday⟩
    rw [if_pos hday, ofParts?, dif_pos hdate]
    refine .inl ⟨_, rfl, ?_⟩
    simp only [daysBefore, daysOfYearBefore]
    omega
  have hday' : d.day = daysInMonth d.year d.month := by omega
  rw [if_neg hday]
  by_cases hinYear : d.month < 12
  · have hdate : IsDate d.year (d.month + 1) 1 := by
      refine ⟨hyear, hyears, by omega, by omega, le_rfl, ?_⟩
      unfold daysInMonth
      split <;> split <;> decide
    rw [if_pos hinYear, ofParts?, dif_pos hdate]
    exact .inl ⟨_, rfl, (daysBefore_first hdate).trans (daysBefore_lastOfMonth hday').symm⟩
  have hdecember : d.month = 12 := by omega
  have hcount := daysBefore_lastOfYear hdecember hday'
  rw [if_neg hinYear]
  by_cases hinCalendar : d.year < 9999
  · have hdate : IsDate (d.year + 1) 1 1 :=
      ⟨by omega, by omega, le_rfl, by decide, le_rfl, Nat.succ_pos 30⟩
    rw [ofParts?, dif_pos hdate]
    exact .inl ⟨_, rfl, (daysBefore_first hdate).trans hcount.symm⟩
  · have hdate : ¬IsDate (d.year + 1) 1 1 := fun h => by
      have := h.2.1
      omega
    have hlastYear : d.year = 9999 := by omega
    rw [ofParts?, dif_neg hdate]
    exact .inr ⟨rfl, by rw [hcount, hlastYear]; rfl⟩

/-- **The day before a date** has one day less before it, and only the first day of the calendar has
none. -/
lemma previous?_cases (d : Date) :
    (∃ e, d.previous? = some e ∧ e.daysBefore + 1 = d.daysBefore) ∨
      d.previous? = none ∧ d.daysBefore = 0 := by
  obtain ⟨hyear, hyears, hmonth, hmonths, hfirst, hlast⟩ := d.isDate
  unfold previous?
  by_cases hday : 1 < d.day
  · have hdate : IsDate d.year d.month (d.day - 1) :=
      ⟨hyear, hyears, hmonth, hmonths, by omega, by omega⟩
    rw [if_pos hday, ofParts?, dif_pos hdate]
    refine .inl ⟨_, rfl, ?_⟩
    simp only [daysBefore, daysOfYearBefore]
    omega
  have hcount : d.daysBefore =
      ∑ k ∈ Ico 1 d.year, daysInYear k + ∑ k ∈ Ico 1 d.month, daysInMonth d.year k := by
    rw [daysBefore, daysOfYearBefore, Nat.sub_eq_zero_of_le (by omega), Nat.add_zero]
  rw [if_neg hday]
  by_cases hinYear : 1 < d.month
  · have hdate : IsDate d.year (d.month - 1) (daysInMonth d.year (d.month - 1)) := by
      refine ⟨hyear, hyears, by omega, by omega, ?_, le_rfl⟩
      unfold daysInMonth
      split <;> split <;> decide
    rw [if_pos hinYear, ofParts?, dif_pos hdate]
    refine .inl ⟨_, rfl, (daysBefore_lastOfMonth rfl).trans ?_⟩
    rw [hcount, Nat.sub_add_cancel hmonth]
  have hjanuary : d.month = 1 := by omega
  rw [hjanuary, Ico_self, sum_empty, Nat.add_zero] at hcount
  rw [if_neg hinYear]
  by_cases hinCalendar : 1 < d.year
  · have hdate : IsDate (d.year - 1) 12 31 :=
      ⟨by omega, by omega, by decide, le_rfl, by decide, le_rfl⟩
    rw [ofParts?, dif_pos hdate]
    refine .inl ⟨_, rfl, (daysBefore_lastOfYear rfl rfl).trans ?_⟩
    rw [hcount, Nat.sub_add_cancel hyear]
  · have hdate : ¬IsDate (d.year - 1) 12 31 := fun h => by
      have := h.1
      omega
    have hfirstYear : d.year = 1 := by omega
    rw [ofParts?, dif_neg hdate]
    exact .inr ⟨rfl, by rw [hcount, hfirstYear, Ico_self, sum_empty]⟩

/-- One year more has a leap day more exactly if it is a leap year. -/
lemma daysBeforeYear_succ {y : ℕ} (hy : 1 ≤ y) :
    daysBeforeYear (y + 1) = daysBeforeYear y + daysInYear y := by
  obtain ⟨p, rfl⟩ : ∃ p, y = p + 1 := ⟨y - 1, by omega⟩
  have hleap : isLeapYear (p + 1) = true ↔ 4 ∣ p + 1 ∧ (¬100 ∣ p + 1 ∨ 400 ∣ p + 1) := by
    simp [isLeapYear, Nat.dvd_iff_mod_eq_zero]
  have hhundred : 400 ∣ p + 1 → 100 ∣ p + 1 := Nat.dvd_trans (by decide)
  have hfour : 100 ∣ p + 1 → 4 ∣ p + 1 := Nat.dvd_trans (by decide)
  have hle : p / 100 ≤ p / 4 := Nat.div_le_div_left (by decide) (by decide)
  simp only [daysBeforeYear, daysInYear, Nat.add_sub_cancel, Nat.succ_div, hleap]
  generalize p / 4 = a at *
  generalize p / 100 = b at *
  generalize p / 400 = c
  by_cases h₄ : 4 ∣ p + 1 <;> by_cases h₁₀₀ : 100 ∣ p + 1 <;> by_cases h₄₀₀ : 400 ∣ p + 1 <;>
    simp only [h₄, h₁₀₀, h₄₀₀, true_and, false_and, not_true_eq_false, not_false_eq_true, or_true,
      or_false, true_imp_iff, false_imp_iff, if_true, if_false] at hhundred hfour ⊢ <;>
    omega

/-- The years that are over have the days that the rule of leap years gives them. -/
lemma daysBeforeYear_eq (y : ℕ) : daysBeforeYear y = ∑ k ∈ Ico 1 y, daysInYear k := by
  induction y with
  | zero => rfl
  | succ y ih =>
    rcases Nat.eq_zero_or_pos y with rfl | hy
    · rfl
    · rw [daysBeforeYear_succ hy, ih, sum_Ico_succ_top hy]

/-- The months that are over have their days. -/
lemma daysBeforeMonth_eq (y m : ℕ) : daysBeforeMonth y m = ∑ k ∈ Ico 1 m, daysInMonth y k := by
  induction m with
  | zero => rfl
  | succ m ih =>
    rw [daysBeforeMonth, ih]
    rcases Nat.eq_zero_or_pos m with rfl | hm
    · rfl
    · rw [if_neg hm.ne', sum_Ico_succ_top hm]

/-- **The number of a day** counts the day and all days before it. -/
theorem ordinal_eq (d : Date) : d.ordinal = d.daysBefore + 1 := by
  have hfirst := d.isDate.2.2.2.2.1
  rw [ordinal, daysBeforeYear_eq, daysBeforeMonth_eq, daysBefore, daysOfYearBefore]
  omega

end Date

/-! ## Times of day -/

namespace Clock

/-- The seconds of a day and the millionths of a second are those of a time of day. -/
lemma exists_ofSeconds? {s us : ℕ} (hs : s < 86400) (hus : us < 1000000) :
    ∃ c, ofSeconds? s us = some c ∧ c.seconds = s ∧ c.microsecond = us := by
  have hparts : s / 3600 < 24 ∧ s / 60 % 60 < 60 ∧ s % 60 < 60 ∧ us < 1000000 := by omega
  rw [ofSeconds?, ofParts?, dif_pos hparts]
  refine ⟨_, rfl, ?_, rfl⟩
  unfold seconds
  dsimp only
  omega

/-- A time of day is known by its seconds and its millionths of a second. -/
lemma eq_of_seconds {c e : Clock} (h : c.seconds = e.seconds)
    (hus : c.microsecond = e.microsecond) : c = e := by
  obtain ⟨ch, cm, cs, cus, h₁, h₂, h₃, h₄⟩ := c
  obtain ⟨eh, em, es, eus, h₁', h₂', h₃', h₄'⟩ := e
  simp only [seconds] at h hus
  obtain ⟨rfl, rfl, rfl⟩ : ch = eh ∧ cm = em ∧ cs = es := by omega
  obtain rfl := hus
  rfl

end Clock

/-! ## Instants -/

/-- The microseconds of a day. -/
def dayMicroseconds : ℕ := 86400 * 1000000

/-- An instant lies on the calendar, in the years from 1 to 9999 of universal time. -/
def OnCalendar (instant : ℤ) : Prop := 0 ≤ instant ∧ instant < calendarDays * dayMicroseconds

namespace DateTime

/-- The microseconds of the local calendar and clock from the beginning of the calendar. -/
def elapsed (t : DateTime) : ℕ :=
  (t.date.daysBefore * 86400 + t.clock.seconds) * 1000000 + t.clock.microsecond

/-- The seconds by which the local clock is ahead; a floating time is taken as universal time. -/
def ahead (t : DateTime) : ℤ := (t.offset.map (·.seconds)).getD 0

/-- The microseconds from the beginning of the calendar, in universal time. A floating time is taken
as universal time. -/
def instant (t : DateTime) : ℤ := t.elapsed - t.ahead * 1000000

variable {t u : DateTime}

/-- The offset of a date with a time is less than a day. -/
lemma ahead_lt (t : DateTime) : -86400 < t.ahead ∧ t.ahead < 86400 := by
  unfold ahead
  cases t.offset with
  | none => decide
  | some o => exact o.lt_day

/-- In universal time the local calendar gives the instant. -/
lemma instant_utc (h : t.offset = some .utc) : t.instant = t.elapsed := by
  rw [instant, ahead, h]
  exact Int.sub_zero _

/-- In universal time all instants are on the calendar. -/
lemma onCalendar_utc (h : t.offset = some .utc) : OnCalendar t.instant := by
  have hday := t.date.daysBefore_lt
  have hseconds := t.clock.seconds_lt
  have hus := t.clock.microsecond_lt
  rw [instant_utc h, OnCalendar, elapsed, dayMicroseconds]
  omega

/-- **In universal time a date with a time is known by its instant.** -/
lemma eq_of_instant (ht : t.offset = some .utc) (hu : u.offset = some .utc)
    (h : t.instant = u.instant) : t = u := by
  rw [instant_utc ht, instant_utc hu, Int.natCast_inj] at h
  obtain ⟨d, c, o⟩ := t
  obtain ⟨e, f, p⟩ := u
  dsimp only [elapsed] at h
  obtain ⟨hday, hseconds, hus⟩ : d.daysBefore = e.daysBefore ∧ c.seconds = f.seconds ∧
      c.microsecond = f.microsecond := by
    have hc := c.seconds_lt
    have hf := f.seconds_lt
    have hcus := c.microsecond_lt
    have hfus := f.microsecond_lt
    omega
  obtain rfl : o = p := ht.trans hu.symm
  rw [Date.daysBefore_injective hday, Clock.eq_of_seconds hseconds hus]

/-- The instants that are compared are counted from the day before the calendar begins. -/
lemma instant?_eq (t : DateTime) :
    t.instant? = t.offset.map fun _ => t.instant + dayMicroseconds := by
  obtain ⟨d, c, offset⟩ := t
  cases offset with
  | none => simp only [instant?, Option.map_none]
  | some o =>
    simp only [instant?, Option.map_some, localMicroseconds, d.ordinal_eq, instant, elapsed, ahead,
      Option.getD_some, dayMicroseconds, Option.some.injEq]
    omega

/-- Dates with a time and an offset are equal exactly if they name the same instant. -/
lemma same_iff (ht : t.offset.isSome = true) (hu : u.offset.isSome = true) :
    t.same u = true ↔ t.instant = u.instant := by
  obtain ⟨o, ho⟩ := Option.isSome_iff_exists.1 ht
  obtain ⟨p, hp⟩ := Option.isSome_iff_exists.1 hu
  rw [same, instant?_eq, instant?_eq, ho, hp]
  simp

/-- What moving a date with a time to universal time comes to: the day of the local calendar or a
day next to it, with the time of day that is left.

**Proof sketch.** The seconds of the local clock less the offset lie between one day before the
local day and one day after it. Below zero the day before takes up the difference, from a whole day
on the day after does. Where the neighbouring day is missing, so is the instant. -/
lemma toUtc?_cases (t : DateTime) :
    (∃ u, t.toUtc? = some u ∧ u.offset = some .utc ∧ u.instant = t.instant) ∨
      t.toUtc? = none ∧ ¬OnCalendar t.instant := by
  have hahead := t.ahead_lt
  have hseconds := t.clock.seconds_lt
  have hus := t.clock.microsecond_lt
  have hday := t.date.daysBefore_lt
  have hshift : (t.offset.map (·.seconds)).getD 0 = t.ahead := rfl
  obtain ⟨c, hc, hcs, hcus⟩ := Clock.exists_ofSeconds?
    (s := (((t.clock.seconds : ℤ) - t.ahead) % 86400).toNat) (by omega) hus
  have hfound : ∀ e : Date, (e.daysBefore * 86400 + c.seconds : ℤ) =
      t.date.daysBefore * 86400 + (t.clock.seconds - t.ahead) →
      DateTime.instant ⟨e, c, some .utc⟩ = t.instant := by
    intro e he
    rw [instant_utc rfl, instant, elapsed, elapsed, hcus]
    push_cast
    omega
  have hmissing : t.instant = (t.date.daysBefore * 86400 + (t.clock.seconds - t.ahead)) * 1000000 +
      t.clock.microsecond := by
    rw [instant, elapsed]
    push_cast
    omega
  unfold toUtc?
  dsimp only
  rw [hshift, hc]
  by_cases hbefore : (t.clock.seconds : ℤ) - t.ahead < 0
  · rw [if_pos hbefore]
    rcases t.date.previous?_cases with ⟨e, he, hcount⟩ | ⟨hnone, hcount⟩
    · rw [he]
      exact .inl ⟨_, rfl, rfl, hfound e (by omega)⟩
    · rw [hnone]
      refine .inr ⟨rfl, fun hon => ?_⟩
      rw [OnCalendar, hmissing] at hon
      omega
  rw [if_neg hbefore]
  by_cases hafter : 86400 ≤ (t.clock.seconds : ℤ) - t.ahead
  · rw [if_pos hafter]
    rcases t.date.next?_cases with ⟨e, he, hcount⟩ | ⟨hnone, hcount⟩
    · rw [he]
      exact .inl ⟨_, rfl, rfl, hfound e (by omega)⟩
    · rw [hnone]
      refine .inr ⟨rfl, fun hon => ?_⟩
      rw [OnCalendar, hmissing, ← hcount, dayMicroseconds] at hon
      omega
  · rw [if_neg hafter]
    exact .inl ⟨_, rfl, rfl, hfound t.date (by omega)⟩

/-- **What is found in universal time** is the same instant there. -/
theorem toUtc?_eq_some :
    t.toUtc? = some u ↔ u.offset = some .utc ∧ u.instant = t.instant := by
  constructor
  · intro h
    rcases t.toUtc?_cases with ⟨w, hw, hutc, hinstant⟩ | ⟨hnone, -⟩
    · obtain rfl := Option.some.inj (hw.symm.trans h)
      exact ⟨hutc, hinstant⟩
    · rw [hnone] at h
      cases h
  · rintro ⟨hutc, hinstant⟩
    rcases t.toUtc?_cases with ⟨w, hw, hutc', hinstant'⟩ | ⟨-, hoff⟩
    · rw [hw, eq_of_instant hutc' hutc (hinstant'.trans hinstant.symm)]
    · exact absurd (hinstant ▸ onCalendar_utc hutc) hoff

/-- **Nothing is found in universal time** exactly if the instant is off the calendar. -/
theorem toUtc?_eq_none : t.toUtc? = none ↔ ¬OnCalendar t.instant := by
  rcases t.toUtc?_cases with ⟨w, hw, hutc, hinstant⟩ | ⟨hnone, hoff⟩
  · rw [hw, ← hinstant]
    exact iff_of_false (Option.some_ne_none w) (not_not_intro (onCalendar_utc hutc))
  · exact iff_of_true hnone hoff

end DateTime

end DataSchema
