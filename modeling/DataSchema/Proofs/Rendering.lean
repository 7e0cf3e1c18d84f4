import Mathlib.Algebra.Order.Ring.Nat
import Mathlib.Data.List.Basic
import Mathlib.Data.List.TakeWhile
import DataSchema.Format.Timestamp

set_option autoImplicit false

/-!
# Written dates are read back

The canonical text of a date is read as that date, and the canonical text of a date with a time in
universal time is read as that one. Whatever is read of a timestamp is in universal time, so that
the text of what was read is read as the same again.

## Main results

* `DataSchema.asciiDigits?_padded` — numbers that are filled up with zeros.
* `DataSchema.parseDate_text` — dates.
* `DataSchema.Timestamp.parse_render` — dates with a time.
* `DataSchema.Timestamp.offset_of_parse` — what is read is in universal time.
-/

namespace DataSchema

/-! ## Digits -/

/-- The code of an ASCII digit. -/
lemma toNat_of_isDigit {c : Char} (h : c.isDigit = true) : 48 ≤ c.toNat ∧ c.toNat ≤ 57 := by
  rw [Char.isDigit, Bool.and_eq_true, decide_eq_true_eq, decide_eq_true_eq] at h
  exact h

/-- An ASCII digit is a decimal digit, with its place among the digits as its value. -/
lemma decimalDigit?_of_isDigit {c : Char} (h : c.isDigit = true) :
    decimalDigit? c = some (c.toNat - 48) := by
  obtain ⟨hlow, hhigh⟩ := toNat_of_isDigit h
  have hzero : decide (48 ≤ c.toNat) = true ∧ decide (c.toNat < 48 + 10) = true := by
    simp only [decide_eq_true_eq]
    omega
  simp [decimalDigit?, decimalZeros, hzero.1, hzero.2]

/-- An ASCII digit is not blank. -/
lemma isBlank_of_isDigit {c : Char} (h : c.isDigit = true) : isBlank c = false := by
  obtain ⟨hlow, hhigh⟩ := toNat_of_isDigit h
  rw [isBlank, List.contains_eq_mem, decide_eq_false_iff_not]
  intro hmem
  simp only [blankCodePoints, List.mem_cons, List.not_mem_nil, or_false] at hmem
  omega

/-- Leading zeros do not count. -/
lemma digitsValue_replicate_append (k : Nat) (ds : List Char) :
    digitsValue (List.replicate k '0' ++ ds) = digitsValue ds := by
  induction k with
  | zero => rfl
  | succ k ih => exact ih

/-- The digits of a number make up the number. -/
lemma digitsValue_toDigits (n : Nat) : digitsValue (Nat.toDigits 10 n) = n := by
  induction n using Nat.strongRecOn with
  | ind n ih =>
    have hlast : ∀ d < 10, (decimalDigit? (Nat.digitChar d)).getD 0 = d := by
      intro d hd
      rw [decimalDigit?_of_isDigit (by rw [Nat.isDigit_digitChar, decide_eq_true hd]),
        Nat.toNat_digitChar_of_lt_ten hd]
      exact Nat.add_sub_cancel_left 48 d
    rw [Nat.toDigits_eq_if (by omega)]
    split
    next hn => simp [digitsValue, hlast n hn]
    next hn =>
      have hrest : digitsValue (Nat.toDigits 10 (n / 10)) = n / 10 := ih (n / 10) (by omega)
      have hstep : digitsValue (Nat.toDigits 10 (n / 10) ++ [(n % 10).digitChar]) =
          digitsValue (Nat.toDigits 10 (n / 10)) * 10 + n % 10 := by
        simp [digitsValue, hlast (n % 10) (by omega)]
      rw [hstep, hrest]
      omega

/-- A number that is filled up with zeros consists of digits. -/
lemma isDigit_of_mem_padded {w n : Nat} {c : Char} (h : c ∈ padded w n) :
    c.isDigit = true := by
  rcases List.mem_append.1 h with h | h
  · rw [(List.mem_replicate.1 h).2]
    rfl
  · exact Nat.isDigit_of_mem_toDigits (by decide) (by decide) h

/-- A number that is not too long for a width is filled up to it. -/
lemma length_padded {w n : Nat} (hwidth : 0 < w) (h : n < 10 ^ w) :
    (padded w n).length = w := by
  have hle : (Nat.toDigits 10 n).length ≤ w := (Nat.length_toDigits_le_iff (by decide) hwidth).2 h
  rw [padded, List.length_append, List.length_replicate]
  omega

/-- **A number that is filled up with zeros is read back.** -/
lemma asciiDigits?_padded {w n : Nat} (hwidth : 0 < w) (h : n < 10 ^ w) :
    asciiDigits? (padded w n) = some n := by
  have hsome : (padded w n).isEmpty = false := by
    rw [List.isEmpty_eq_false_iff, ← List.length_pos_iff, length_padded hwidth h]
    exact hwidth
  have hall : (padded w n).all Char.isDigit = true :=
    List.all_eq_true.2 fun c hc => isDigit_of_mem_padded hc
  rw [asciiDigits?, hsome, hall]
  simp only [Bool.not_false, Bool.and_self, if_true]
  rw [padded, digitsValue_replicate_append, digitsValue_toDigits]

/-- Two digits of a number. -/
lemma padded_two {n : Nat} (h : n < 100) :
    ∃ a b, padded 2 n = [a, b] ∧ asciiDigits? [a, b] = some n := by
  obtain ⟨a, b, hab⟩ := List.length_eq_two.1 (length_padded (n := n) (w := 2) (by decide) h)
  exact ⟨a, b, hab, hab ▸ asciiDigits?_padded (by decide) h⟩

/-- Texts without blanks have none to drop. -/
lemma trimBy_eq_self {p : Char → Bool} {cs : List Char} (h : ∀ c ∈ cs, p c = false) :
    trimBy p cs = cs := by
  have hdrop : ∀ ds : List Char, (∀ c ∈ ds, p c = false) → ds.dropWhile p = ds := by
    intro ds hds
    rw [List.dropWhile_eq_self_iff]
    intro hlength
    rw [hds _ (List.getElem_mem hlength)]
    exact Bool.false_ne_true
  rw [trimBy, hdrop cs h, hdrop cs.reverse fun c hc => h c (List.mem_reverse.1 hc),
    List.reverse_reverse]

/-! ## Dates -/

namespace Date

/-- A date consists of its parts. -/
lemma ofParts?_self (d : Date) : ofParts? d.year d.month d.day = some d := by
  rw [ofParts?, dif_pos d.isDate]

/-- The parts of a date have as many digits as are written. -/
lemma parts_lt (d : Date) : d.year < 10 ^ 4 ∧ d.month < 100 ∧ d.day < 100 := by
  obtain ⟨-, hyear, -, hmonth, -, hday⟩ := d.isDate
  have hdays : daysInMonth d.year d.month ≤ 31 := by
    unfold daysInMonth
    split <;> split <;> omega
  omega

/-- A written date has ten characters. -/
lemma length_chars (d : Date) : d.chars.length = 10 := by
  obtain ⟨hyear, hmonth, hday⟩ := d.parts_lt
  simp only [chars, List.length_append, List.length_cons, length_padded (by decide) hyear,
    length_padded (w := 2) (by decide) hmonth, length_padded (w := 2) (by decide) hday]

/-- A written date is read back. -/
lemma ofChars?_chars (d : Date) : ofChars? d.chars = some d := by
  obtain ⟨hyear, hmonth, hday⟩ := d.parts_lt
  obtain ⟨m₁, m₂, hm, hmonth⟩ := padded_two hmonth
  obtain ⟨d₁, d₂, hd, hday⟩ := padded_two hday
  have hlength := length_padded (by decide) hyear
  have hyear := asciiDigits?_padded (by decide) hyear
  rw [chars, hm, hd]
  generalize padded 4 d.year = ys at hlength hyear
  match ys, hlength with
  | [y₁, y₂, y₃, y₄], _ =>
    simp only [List.cons_append, List.nil_append, ofChars?, hyear, hmonth, hday]
    exact d.ofParts?_self

/-- A written date has digits and dashes. -/
lemma mem_chars {d : Date} {c : Char} (h : c ∈ d.chars) : c.isDigit = true ∨ c = '-' := by
  simp only [chars, List.mem_append, List.mem_cons] at h
  rcases h with (h | h | h) | h | h
  · exact .inl (isDigit_of_mem_padded h)
  · exact .inr h
  · exact .inl (isDigit_of_mem_padded h)
  · exact .inr h
  · exact .inl (isDigit_of_mem_padded h)

/-- A written date has no blanks. -/
lemma isBlank_of_mem_chars {d : Date} {c : Char} (h : c ∈ d.chars) : isBlank c = false := by
  rcases mem_chars h with h | rfl
  · exact isBlank_of_isDigit h
  · decide

end Date

/-- **A written date is read as that date.** -/
theorem parseDate_text (d : Date) : parseDate (.str d.text) = .ok d := by
  unfold parseDate Date.text
  dsimp only
  rw [String.toList_ofList, trimBy_eq_self fun c hc => Date.isBlank_of_mem_chars hc,
    d.ofChars?_chars]

/-! ## Dates with a time -/

namespace Clock

/-- A time of day consists of its parts. -/
lemma ofParts?_self (c : Clock) : ofParts? c.hour c.minute c.second c.microsecond = some c := by
  rw [ofParts?, dif_pos ⟨c.hour_lt, c.minute_lt, c.second_lt, c.microsecond_lt⟩]

/-- The seconds since midnight make up the time of day. -/
lemma ofSeconds?_seconds (c : Clock) : ofSeconds? c.seconds c.microsecond = some c := by
  have hhour := c.hour_lt
  have hminute := c.minute_lt
  have hsecond := c.second_lt
  have hparts : c.seconds / 3600 = c.hour ∧ c.seconds / 60 % 60 = c.minute ∧
      c.seconds % 60 = c.second := by
    unfold seconds
    omega
  rw [ofSeconds?, hparts.1, hparts.2.1, hparts.2.2, c.ofParts?_self]

/-- A day has no more seconds than that. -/
lemma seconds_lt (c : Clock) : c.seconds < 86400 := by
  have hhour := c.hour_lt
  have hminute := c.minute_lt
  have hsecond := c.second_lt
  unfold seconds
  omega

/-- A written time of day has digits, colons and a point. -/
lemma mem_chars {c : Clock} {x : Char} (h : x ∈ c.chars) :
    x.isDigit = true ∨ x = ':' ∨ x = '.' := by
  unfold chars at h
  simp only [List.mem_append, List.mem_cons] at h
  rcases h with ((h | h | h) | h | h) | h
  · exact .inl (isDigit_of_mem_padded h)
  · exact .inr (.inl h)
  · exact .inl (isDigit_of_mem_padded h)
  · exact .inr (.inl h)
  · exact .inl (isDigit_of_mem_padded h)
  · split at h
    · cases h
    · rcases List.mem_cons.1 h with h | h
      · exact .inr (.inr h)
      · exact .inl (isDigit_of_mem_padded h)

end Clock

namespace Timestamp

/-- Six written digits are the millionths of a second. -/
lemma microseconds?_padded {n : Nat} (h : n < 10 ^ 6) : microseconds? (padded 6 n) = some n := by
  have hlength := length_padded (w := 6) (by decide) h
  have hsome : (padded 6 n).isEmpty = false := by
    rw [List.isEmpty_eq_false_iff, ← List.length_pos_iff, hlength]
    decide
  have hall : (padded 6 n).all isDecimalDigit = true := by
    refine List.all_eq_true.2 fun c hc => ?_
    rw [isDecimalDigit, decimalDigit?_of_isDigit (isDigit_of_mem_padded hc)]
    rfl
  rw [microseconds?, hsome, hall, Bool.not_true, Bool.or_self, if_neg Bool.false_ne_true,
    List.take_left' hlength, asciiDigits?_padded (by decide) h]

/-- A written time of day is read back. -/
lemma clock?_chars (c : Clock) : clock? c.chars = some c := by
  obtain ⟨h₁, h₂, hh, hhour⟩ := padded_two (Nat.lt_trans c.hour_lt (by decide))
  obtain ⟨m₁, m₂, hm, hminute⟩ := padded_two (Nat.lt_trans c.minute_lt (by decide))
  obtain ⟨s₁, s₂, hs, hsecond⟩ := padded_two (Nat.lt_trans c.second_lt (by decide))
  unfold Clock.chars
  rw [hh, hm, hs]
  have hself := c.ofParts?_self
  split
  next hzero =>
    rw [hzero] at hself
    simp only [List.cons_append, List.nil_append, List.append_nil, clock?, hhour, hminute, hsecond]
    exact hself
  next =>
    have hfraction := microseconds?_padded c.microsecond_lt
    simp only [List.cons_append, List.nil_append, clock?, hhour, hminute, hsecond, hfraction]
    exact hself

/-- A written time of day has no character that ends it. -/
lemma isClockChar_of_mem_chars {c : Clock} {x : Char} (h : x ∈ c.chars) :
    isClockChar x = true := by
  rcases Clock.mem_chars h with h | rfl | rfl
  · rw [isClockChar, isDecimalDigit, decimalDigit?_of_isDigit h]
    rfl
  · decide
  · decide

/-- A written time of day has no blanks. -/
lemma isBlank_of_mem_chars {c : Clock} {x : Char} (h : x ∈ c.chars) : isBlank x = false := by
  rcases Clock.mem_chars h with h | rfl | rfl
  · exact isBlank_of_isDigit h
  · decide
  · decide

/-- A date and a time of day with the mark of universal time are read back. -/
lemma written?_chars (d : Date) (c : Clock) :
    written? (d.chars ++ 'T' :: c.chars ++ ['Z']) = some ⟨d, c, some .utc⟩ := by
  have hmark : isClockChar 'Z' = false := by decide
  have htake : (c.chars ++ ['Z']).takeWhile isClockChar = c.chars := by
    rw [List.takeWhile_append_of_pos fun x hx => isClockChar_of_mem_chars hx,
      List.takeWhile_cons_of_neg (by rw [hmark]; exact Bool.false_ne_true), List.append_nil]
  have hdrop : (c.chars ++ ['Z']).dropWhile isClockChar = ['Z'] := by
    rw [List.dropWhile_append_of_pos fun x hx => isClockChar_of_mem_chars hx,
      List.dropWhile_cons_of_neg (by rw [hmark]; exact Bool.false_ne_true)]
  rw [List.append_assoc, List.cons_append, written?, List.take_left' d.length_chars,
    List.drop_left' d.length_chars, d.ofChars?_chars]
  simp only [bind, Option.bind, true_or, if_true, htake, hdrop, clock?_chars]
  rfl

/-- A date with a time in universal time stays as it is there. -/
lemma toUtc?_utc (d : Date) (c : Clock) :
    DateTime.toUtc? ⟨d, c, some .utc⟩ = some ⟨d, c, some .utc⟩ := by
  have hlt := c.seconds_lt
  have hshifted : ((c.seconds : Int) - ((some Offset.utc).map (·.seconds)).getD 0) = c.seconds :=
    Int.sub_zero _
  unfold DateTime.toUtc?
  dsimp only
  rw [hshifted, if_neg (by omega), if_neg (by omega)]
  have hseconds : ((c.seconds : Int) % 86400).toNat = c.seconds := by omega
  rw [hseconds, c.ofSeconds?_seconds]

/-- **The canonical text of a date with a time in universal time is read as that one.** -/
theorem parse_render {t : DateTime} (h : t.offset = some .utc) : parse (render t) = .ok t := by
  obtain ⟨d, c, offset⟩ := t
  obtain rfl : offset = some .utc := h
  have hchars : (render ⟨d, c, some .utc⟩).toList = d.chars ++ 'T' :: c.chars ++ ['Z'] := by
    unfold render
    dsimp only
    rw [if_pos (show Offset.utc.seconds = 0 from rfl), String.toList_ofList]
    simp [DateTime.charsWith]
  have hblank : ∀ x ∈ d.chars ++ 'T' :: c.chars ++ ['Z'], isBlank x = false := by
    intro x hx
    simp only [List.mem_append, List.mem_cons, List.not_mem_nil, or_false] at hx
    rcases hx with (hx | rfl | hx) | rfl
    · exact Date.isBlank_of_mem_chars hx
    · decide
    · exact isBlank_of_mem_chars hx
    · decide
  rw [parse, hchars, trimBy_eq_self hblank, written?_chars]
  dsimp only
  rw [toUtc?_utc]

/-- What is read is in universal time. -/
lemma offset_of_parse {text : String} {t : DateTime} (h : parse text = .ok t) :
    t.offset = some .utc := by
  unfold parse at h
  split at h
  next => cases h
  next =>
    split at h
    next utc hutc =>
      obtain rfl := Except.ok.inj h
      unfold DateTime.toUtc? at hutc
      dsimp only at hutc
      split at hutc
      next => rw [← Option.some.inj hutc]
      next => cases hutc
    next => cases h

end Timestamp

end DataSchema
