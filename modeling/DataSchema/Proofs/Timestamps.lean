import DataSchema.Proofs.WrittenTimes

set_option autoImplicit false

/-!
# What timestamps denote

A text that is read as a timestamp is one that is written in one of the forms, and what is read is
in universal time at the instant that the form denotes; it is refused if that instant is off the
calendar. Two texts are read alike exactly if they denote the same instant. In turn the canonical
text of a date is read as that date, and the canonical text of a date with a time as the same
instant, whatever its offset.

## Main results

* `DataSchema.Timestamp.parse_eq_ok` — what is read of a text.
* `DataSchema.parse_denotes` — the instants that texts denote.
* `DataSchema.Timestamp.exists_written_render` — canonical texts are written in one of the forms.
* `DataSchema.renderings_parsed` — canonical texts are read back.
-/

namespace DataSchema

namespace Timestamp

variable {text : String} {t : DateTime} {w : WrittenTime}

/-! ## Reading -/

/-- A text that is written in a form is read as that form, unless its instant is off the
calendar. -/
lemma parse_of_chars (h : w.chars = trimBy isBlank text.toList) :
    parse text = match w.dateTime.toUtc? with
      | some utc => .ok utc
      | none => .error .offCalendar := by
  have hwritten : written? (trimBy isBlank text.toList) = some w.dateTime :=
    written?_eq_some.2 ⟨w, h, rfl⟩
  cases hutc : w.dateTime.toUtc? <;> simp only [parse, hwritten, hutc]

/-- **What is read of a text** is the date with a time, in universal time, at the instant that the
text denotes. -/
lemma parse_eq_ok : parse text = .ok t ↔ t.offset = some .utc ∧
    ∃ w : WrittenTime, w.chars = trimBy isBlank text.toList ∧ t.instant = w.instant := by
  constructor
  · intro h
    cases hwritten : written? (trimBy isBlank text.toList) with
    | none =>
      rw [parse, hwritten] at h
      cases h
    | some s =>
      obtain ⟨w, hchars, rfl⟩ := written?_eq_some.1 hwritten
      rw [parse_of_chars hchars] at h
      split at h
      next utc hutc =>
        obtain rfl := Except.ok.inj h
        obtain ⟨hoffset, hinstant⟩ := DateTime.toUtc?_eq_some.1 hutc
        exact ⟨hoffset, w, hchars, hinstant.trans w.instant_dateTime⟩
      next => cases h
  · rintro ⟨hoffset, w, hchars, hinstant⟩
    rw [parse_of_chars hchars,
      DateTime.toUtc?_eq_some.2 ⟨hoffset, hinstant.trans w.instant_dateTime.symm⟩]

/-- A text denotes one instant, even if it could be written in several forms. -/
lemma instant_of_parse (h : parse text = .ok t) (hw : w.chars = trimBy isBlank text.toList) :
    t.instant = w.instant := by
  obtain ⟨-, w', hw', hinstant⟩ := parse_eq_ok.1 h
  have hsame : some w'.dateTime = some w.dateTime := by
    rw [← written?_eq_some.2 ⟨w', hw', rfl⟩, ← written?_eq_some.2 ⟨w, hw, rfl⟩]
  rw [hinstant, ← w'.instant_dateTime, Option.some.inj hsame, w.instant_dateTime]

end Timestamp

/-- **A timestamp denotes its instant.** A text is read as a date with a time exactly if this is in
universal time and the text, without blanks around it, is a timestamp in one of the written forms
that denotes the same instant. Of two texts that are read, the same is read exactly if they denote
the same instant.

**Proof sketch.** `Timestamp.parse_eq_ok` says what is read; in universal time a date with a time is
known by its instant. -/
theorem parse_denotes :
    (∀ (text : String) (t : DateTime), Timestamp.parse text = .ok t ↔
      t.offset = some .utc ∧
        ∃ w : WrittenTime, w.chars = trimBy isBlank text.toList ∧ t.instant = w.instant) ∧
      ∀ (text text' : String) (t t' : DateTime) (w w' : WrittenTime),
        Timestamp.parse text = .ok t → Timestamp.parse text' = .ok t' →
        w.chars = trimBy isBlank text.toList → w'.chars = trimBy isBlank text'.toList →
        (t = t' ↔ w.instant = w'.instant) := by
  refine ⟨fun _ _ => Timestamp.parse_eq_ok, fun text text' t t' w w' ht ht' hw hw' => ?_⟩
  rw [← Timestamp.instant_of_parse ht hw, ← Timestamp.instant_of_parse ht' hw']
  exact ⟨congrArg DateTime.instant,
    DateTime.eq_of_instant (Timestamp.offset_of_parse ht) (Timestamp.offset_of_parse ht')⟩

/-- The second hour of March by a clock that is two hours ahead, with seven digits of a fraction. -/
def marchBegins : WrittenTime where
  date := ⟨2000, 3, 1, by decide⟩
  separator := 'T'
  clock := ⟨1, 30, some ⟨15, some ['1', '2', '3', '4', '5', '6', '7'], by decide, by decide,
    List.all_eq_true.1 (by decide +kernel), List.all_eq_true.1 (by decide)⟩, by decide, by decide⟩
  offset := .shift false 2 0 true (by decide) (by decide)
  separates := by decide

/-- The last hour of a leap day in universal time. -/
def leapDayEnds : WrittenTime where
  date := ⟨2000, 2, 29, by decide⟩
  separator := ' '
  clock := ⟨23, 30, some ⟨15, some ['1', '2', '3', '4', '5', '6'], by decide, by decide,
    List.all_eq_true.1 (by decide +kernel), List.all_eq_true.1 (by decide)⟩, by decide, by decide⟩
  offset := .zulu false
  separates := by decide

/-- What is read of both. -/
def leapDayNight : DateTime :=
  ⟨⟨2000, 2, 29, by decide⟩, ⟨23, 30, 15, 123456, by decide, by decide, by decide, by decide⟩,
    some .utc⟩

/-- The second hour of March by a clock that is two hours ahead is the last one of February, in a
year that ends a century and has a leap day. -/
theorem leapDay_denoted :
    Timestamp.parse " 2000-03-01T01:30:15.1234567+02:00" = .ok leapDayNight ∧
      Timestamp.parse "2000-02-29 23:30:15.123456z" = .ok leapDayNight ∧
      marchBegins.chars = trimBy isBlank " 2000-03-01T01:30:15.1234567+02:00".toList ∧
      leapDayEnds.chars = trimBy isBlank "2000-02-29 23:30:15.123456z".toList ∧
      marchBegins.instant = leapDayEnds.instant := by
  have hmarch : Timestamp.parse " 2000-03-01T01:30:15.1234567+02:00" = .ok leapDayNight := by
    decide +kernel
  have hfebruary : Timestamp.parse "2000-02-29 23:30:15.123456z" = .ok leapDayNight := by
    decide +kernel
  have hchars : marchBegins.chars =
      trimBy isBlank " 2000-03-01T01:30:15.1234567+02:00".toList := by decide +kernel
  have hchars' : leapDayEnds.chars =
      trimBy isBlank "2000-02-29 23:30:15.123456z".toList := by decide +kernel
  exact ⟨hmarch, hfebruary, hchars, hchars',
    (parse_denotes.2 _ _ _ _ _ _ hmarch hfebruary hchars hchars').1 rfl⟩

namespace Timestamp

variable {t : DateTime}

/-! ## Rendering -/

/-- A written offset has no blanks. -/
lemma isBlank_of_mem_offset {o : Offset} {c : Char} (h : c ∈ o.chars) : isBlank c = false := by
  have hpadded : ∀ {n}, c ∈ padded 2 n → isBlank c = false := fun hc =>
    isBlank_of_isDigit (isDigit_of_mem_padded hc)
  have hcolon : isBlank ':' = false := by decide
  simp only [Offset.chars, List.mem_append, List.mem_cons] at h
  rcases h with ((h | h) | rfl | h) | h
  · subst h
    split <;> decide
  · exact hpadded h
  · exact hcolon
  · exact hpadded h
  · split at h
    · cases h
    · rcases List.mem_cons.1 h with rfl | h
      · exact hcolon
      · exact hpadded h

/-- An offset of whole minutes is written in one of the forms. -/
lemma exists_written_offset {o : Offset} (h : 60 ∣ o.seconds) :
    ∃ w : WrittenOffset, w.chars = o.chars ∧ w.ahead * 60 = o.seconds := by
  obtain ⟨hlow, hhigh⟩ := o.lt_day
  refine ⟨.shift (decide (o.seconds < 0)) (o.seconds.natAbs / 3600)
    (o.seconds.natAbs / 60 % 60) true (by omega) (by omega), ?_, ?_⟩
  · rw [WrittenOffset.chars, Offset.chars, if_pos (show o.seconds.natAbs % 60 = 0 by omega)]
    simp
  · simp only [WrittenOffset.ahead, decide_eq_true_eq]
    split <;> omega

/-- The canonical text of a date with a time shows its offset, `Z` standing for universal time. -/
lemma exists_offset_render (h : ∀ o ∈ t.offset, 60 ∣ o.seconds) : ∃ w : WrittenOffset,
    (render t).toList = t.date.chars ++ 'T' :: (t.clock.chars ++ w.chars) ∧
      w.ahead * 60 = t.ahead ∧ ∀ x ∈ w.chars, isBlank x = false := by
  obtain ⟨d, c, offset⟩ := t
  have hmark : ∀ x ∈ (WrittenOffset.zulu true).chars, isBlank x = false :=
    List.forall_mem_singleton.2 (by decide)
  unfold render
  cases offset with
  | none => exact ⟨.zulu true, by simp [DateTime.charsWith, WrittenOffset.chars], rfl, hmark⟩
  | some o =>
    dsimp only
    by_cases hzero : o.seconds = 0
    · rw [if_pos hzero]
      exact ⟨.zulu true, by simp [DateTime.charsWith, WrittenOffset.chars], hzero.symm, hmark⟩
    · rw [if_neg hzero]
      obtain ⟨w, hchars, hahead⟩ := exists_written_offset (h o rfl)
      refine ⟨w, by simp [DateTime.text, DateTime.charsWith, hchars], hahead, fun x hx => ?_⟩
      exact isBlank_of_mem_offset (hchars ▸ hx)

/-- **The canonical text of a date with a time** is written in one of the forms and denotes its
instant, if its offset is of whole minutes. -/
lemma exists_written_render (h : ∀ o ∈ t.offset, 60 ∣ o.seconds) : ∃ w : WrittenTime,
    w.chars = trimBy isBlank (render t).toList ∧ w.instant = t.instant := by
  obtain ⟨o, hrender, hahead, hblank⟩ := exists_offset_render h
  obtain ⟨clock, hchars, hclock⟩ := clock?_eq_some.1 (clock?_chars t.clock)
  have hnone : ∀ x ∈ t.date.chars ++ 'T' :: (t.clock.chars ++ o.chars), isBlank x = false := by
    simp only [List.forall_mem_append, List.forall_mem_cons]
    exact ⟨fun _ => Date.isBlank_of_mem_chars, by decide, fun _ => isBlank_of_mem_chars, hblank⟩
  refine ⟨⟨t.date, 'T', clock, o, .inl rfl⟩, ?_, ?_⟩
  · rw [hrender, trimBy_eq_self hnone, WrittenTime.chars, hchars]
  · rw [← WrittenTime.instant_dateTime, DateTime.instant, DateTime.instant, ← hahead]
    simp only [DateTime.elapsed, WrittenTime.dateTime, hclock]
    rfl

/-- **The canonical text of a floating time** is read as universal time. -/
lemma parse_render_floating (d : Date) (c : Clock) :
    parse (render ⟨d, c, none⟩) = .ok ⟨d, c, some .utc⟩ :=
  parse_render (t := ⟨d, c, some .utc⟩) rfl

end Timestamp

/-- **Canonical texts are read back.** The canonical text of a date is read as that date. The
canonical text of a date with a time whose offset, if it has one, is of whole minutes is read as the
same instant in universal time, if that instant is on the calendar; a floating time is read as
universal time, and universal time as it is, to the microsecond.

**Proof sketch.** The canonical text is in one of the written forms, and denotes the instant;
`Timestamp.parse_eq_ok` says that this is what is read. -/
theorem renderings_parsed :
    (∀ d : Date, ∃ text, renderDate? (.date d) = some text ∧ parseDate (.str text) = .ok d) ∧
      (∀ t : DateTime, (∀ o ∈ t.offset, 60 ∣ o.seconds) → OnCalendar t.instant →
        ∃ u, Timestamp.parse (Timestamp.render t) = .ok u ∧ u.offset = some .utc ∧
          u.instant = t.instant) ∧
      ∀ (d : Date) (c : Clock),
        Timestamp.parse (Timestamp.render ⟨d, c, none⟩) = .ok ⟨d, c, some .utc⟩ ∧
          Timestamp.parse (Timestamp.render ⟨d, c, some .utc⟩) = .ok ⟨d, c, some .utc⟩ := by
  refine ⟨fun d => ⟨d.text, rfl, parseDate_text d⟩, fun t hminutes hon => ?_, fun d c => ?_⟩
  · obtain ⟨w, hchars, hinstant⟩ := Timestamp.exists_written_render hminutes
    cases hutc : t.toUtc? with
    | none => exact absurd hon (DateTime.toUtc?_eq_none.1 hutc)
    | some u =>
      obtain ⟨hoffset, hsame⟩ := DateTime.toUtc?_eq_some.1 hutc
      exact ⟨u, Timestamp.parse_eq_ok.2 ⟨hoffset, w, hchars, hsame.trans hinstant.symm⟩, hoffset,
        hsame⟩
  · exact ⟨Timestamp.parse_render_floating d c, Timestamp.parse_render rfl⟩

/-- The half minute before a leap day by a clock that is half an hour behind, in a year of one
digit. -/
def leapEve : DateTime :=
  ⟨⟨4, 2, 28, by decide⟩, ⟨23, 59, 30, 500, by decide, by decide, by decide, by decide⟩,
    some ⟨-1800, by decide⟩⟩

/-- A time with an offset is read back as the same instant, on the next day of universal time. -/
theorem leapEve_parsed :
    (∀ o ∈ leapEve.offset, 60 ∣ o.seconds) ∧ OnCalendar leapEve.instant ∧
      ∃ u, Timestamp.parse (Timestamp.render leapEve) = .ok u ∧ u.offset = some .utc ∧
        u.instant = leapEve.instant := by
  have hminutes : ∀ o ∈ leapEve.offset, 60 ∣ o.seconds := by
    rintro o ⟨⟩
    decide
  have hutc : leapEve.toUtc? ≠ none := by decide +kernel
  have hon : OnCalendar leapEve.instant := not_not.1 (mt DateTime.toUtc?_eq_none.2 hutc)
  exact ⟨hminutes, hon, renderings_parsed.2.1 leapEve hminutes hon⟩

end DataSchema
