import Mathlib.Logic.Basic
import DataSchema.Casting

set_option autoImplicit false

/-!
# Conversions of scalars

What a cast makes of a value that is neither an object nor an array. A conversion makes a value,
fails with an issue, or stops at a timestamp off the calendar, and it does so alike wherever the
value stands. What it makes is said case by case: later proofs go through these cases and leave the
definitions closed.

## Main definitions

* `DataSchema.Keywords.asksForScalar` — whether a schema asks for a text, a number or a truth value.
* `DataSchema.Casting.ConvertsByType`, `DataSchema.Casting.Converts` — what the type, and the schema
  as a whole, make of a value.
* `DataSchema.Casting.ScalarFrom` — the kinds of values that come out.
* `DataSchema.Casting.Conversion` — how the conversion of a scalar ends.

## Main results

* `DataSchema.Casting.castTyped_outcome_ok`, `DataSchema.Casting.castScalar_outcome_ok` —
  conversions make what the cases say, and nothing else.
* `DataSchema.Casting.castScalar_conversion` — how conversions end, wherever the value stands.
-/

namespace DataSchema

/-- Whether a schema asks for a text, a number or a truth value. -/
def Keywords.asksForScalar (s : Schema) : Bool :=
  match s.type with
  | some .string | some .number | some .integer | some .boolean => true
  | _ => false

namespace Casting

open Validation (hasType isTemporal)

/-! ## What conversions make -/

/-- A type makes one value of another. -/
inductive ConvertsByType (s : Schema) : Value → Value → Prop
  /-- Where no scalar is asked for, every value is kept. -/
  | unasked (v : Value) : s.asksForScalar = false → ConvertsByType s v v
  | text (text : String) : s.type = some .string → ConvertsByType s (.str text) (.str text)
  | number (n : Int) : s.type = some .number → ConvertsByType s (.int n) (.int n)
  | double (x : Binary64) : s.type = some .number → ConvertsByType s (.float x) (.float x)
  | numberText {text : String} {x : Binary64} : s.type = some .number →
    parseNumber (.str text) = .ok x → ConvertsByType s (.str text) (.float x)
  | integer (n : Int) : s.type = some .integer → ConvertsByType s (.int n) (.int n)
  | wholeDouble {x : Binary64} {n : Int} : s.type = some .integer → x.toInt? = some n →
    ConvertsByType s (.float x) (.int n)
  | integerText {text : String} {n : Int} : s.type = some .integer →
    parseInteger (.str text) = .ok n → ConvertsByType s (.str text) (.int n)
  | boolean (b : Bool) : s.type = some .boolean → ConvertsByType s (.bool b) (.bool b)
  | booleanText {text : String} {b : Bool} : s.type = some .boolean →
    parseBoolean (.str text) = .ok b → ConvertsByType s (.str text) (.bool b)

/-- A value goes by the type alone: texts do not become dates, or it is neither a text nor a date
as the format asks for. -/
def GoesByType (s : Schema) (v : Value) : Prop :=
  asksForDates s = false ∨ isTemporal s.format v = false ∧ ∀ text, v ≠ .str text

/-- A schema makes one value of another, if that is neither an object nor an array. -/
inductive Converts (s : Schema) : Value → Value → Prop
  /-- A date is kept where texts become dates. -/
  | temporal (v : Value) : asksForDates s = true → isTemporal s.format v = true → Converts s v v
  | timestamp {text : String} {t : DateTime} : asksForDates s = true →
    s.format = .str "date-time" → Timestamp.parse text = .ok t →
    Converts s (.str text) (.dateTime t)
  | day {text : String} {d : Date} : asksForDates s = true → s.format = .str "date" →
    parseDate (.str text) = .ok d → Converts s (.str text) (.date d)
  | typed {v r : Value} : GoesByType s v → ConvertsByType s v r → Converts s v r

/-- A value may come out of a conversion: the value that went in, if no scalar is asked for, and
else a scalar of the type. -/
def ScalarFrom (s : Schema) (v r : Value) : Prop :=
  s.asksForScalar = false ∧ r = v ∨
    r.isObject = false ∧ r.isArray = false ∧ Validation.hasType s r = true

/-- How a conversion ends, wherever the value stands. -/
inductive Conversion (s : Schema) (v : Value) (cast : Path → Casts Value) : Prop
  /-- It makes a value of the right kind. -/
  | result (r : Value) : ScalarFrom s v r → (∀ path, cast path = pure r) → Conversion s v cast
  /-- It fails with an issue. -/
  | issue (kind : IssueKind) (message : String) :
    (∀ path, cast path = fail kind message path) → Conversion s v cast
  /-- It stops at a timestamp off the calendar. -/
  | offCalendar (text : String) : v = .str text → s.format = .str "date-time" →
    Timestamp.parse text = .error .offCalendar → (∀ path, cast path = stop .offCalendar) →
    Conversion s v cast

variable {s : Schema} {v r : Value} {path : Path}

/-- The conversion of a text comes to what is read, or to an issue. -/
lemma converted_cases {α : Type} (s : Schema) (x : Except FormatError α) (f : α → Value) :
    (∃ a, x = .ok a ∧ ∀ path, converted s path x f = pure (f a)) ∨
      ∃ kind message, ∀ path, converted s path x f = fail kind message path := by
  cases x with
  | ok a => exact .inl ⟨a, rfl, fun _ => rfl⟩
  | error e => exact .inr ⟨_, _, fun _ => rfl⟩

/-! ## By the type -/

/-- The type makes a value of the right kind. -/
lemma ConvertsByType.scalarFrom (h : ConvertsByType s v r) : ScalarFrom s v r := by
  cases h with
  | unasked _ hasks => exact .inl ⟨hasks, rfl⟩
  | text _ htype | number _ htype | double _ htype | integer _ htype | numberText htype _
  | integerText htype _ | wholeDouble htype _ =>
    refine .inr ⟨rfl, rfl, ?_⟩
    unfold hasType
    rw [htype]
    rfl
  | boolean _ htype | booleanText htype _ =>
    refine .inr ⟨rfl, rfl, ?_⟩
    unfold hasType
    rw [htype]

/-- The conversion by the type comes to what the type makes of the value, or to an issue. -/
lemma castTyped_cases (s : Schema) (v : Value) :
    (∃ r, ConvertsByType s v r ∧ ∀ path, castTyped s v path = pure r) ∨
      ∃ kind message, ∀ path, castTyped s v path = fail kind message path := by
  unfold castTyped
  cases htype : s.type with
  | none => exact .inl ⟨v, .unasked v (by rw [Keywords.asksForScalar, htype]), fun _ => rfl⟩
  | some t =>
    cases t with
    | object | array | unknown _ =>
      exact .inl ⟨v, .unasked v (by rw [Keywords.asksForScalar, htype]), fun _ => rfl⟩
    | string =>
      cases v with
      | str text => exact .inl ⟨_, .text text htype, fun _ => rfl⟩
      | _ => exact .inr ⟨_, _, fun _ => rfl⟩
    | number =>
      cases v with
      | int n => exact .inl ⟨_, .number n htype, fun _ => rfl⟩
      | float x => exact .inl ⟨_, .double x htype, fun _ => rfl⟩
      | str text =>
        exact (converted_cases s _ _).imp_left fun ⟨x, hx, heq⟩ => ⟨_, .numberText htype hx, heq⟩
      | _ => exact .inr ⟨_, _, fun _ => rfl⟩
    | integer =>
      cases v with
      | int n => exact .inl ⟨_, .integer n htype, fun _ => rfl⟩
      | float x =>
        dsimp only
        cases hn : x.toInt? with
        | some n => exact .inl ⟨_, .wholeDouble htype hn, fun _ => rfl⟩
        | none => exact .inr ⟨_, _, fun _ => rfl⟩
      | str text =>
        exact (converted_cases s _ _).imp_left fun ⟨n, hn, heq⟩ => ⟨_, .integerText htype hn, heq⟩
      | _ => exact .inr ⟨_, _, fun _ => rfl⟩
    | boolean =>
      cases v with
      | bool b => exact .inl ⟨_, .boolean b htype, fun _ => rfl⟩
      | str text =>
        exact (converted_cases s _ _).imp_left fun ⟨b, hb, heq⟩ => ⟨_, .booleanText htype hb, heq⟩
      | _ => exact .inr ⟨_, _, fun _ => rfl⟩

/-- What the type makes of a value is what the conversion comes to. -/
lemma ConvertsByType.castTyped_eq (h : ConvertsByType s v r) (path : Path) :
    castTyped s v path = pure r := by
  unfold castTyped
  cases h with
  | unasked _ hasks =>
    cases htype : s.type with
    | none => rfl
    | some t =>
      rw [Keywords.asksForScalar, htype] at hasks
      cases t <;> first | rfl | cases hasks
  | text _ htype | number _ htype | double _ htype | integer _ htype | boolean _ htype =>
    rw [htype]
  | numberText htype hread | integerText htype hread | booleanText htype hread =>
    rw [htype]
    dsimp only
    rw [hread]
    rfl
  | wholeDouble htype hwhole =>
    rw [htype]
    dsimp only
    rw [hwhole]

/-- **The conversion by the type** makes what the type makes of the value. -/
lemma castTyped_outcome_ok : (castTyped s v path).outcome = .ok r ↔ ConvertsByType s v r := by
  refine ⟨fun h => ?_, fun h => by rw [h.castTyped_eq]; rfl⟩
  rcases castTyped_cases s v with ⟨r', hr', heq⟩ | ⟨kind, message, heq⟩
  · rw [heq] at h
    obtain rfl := Except.ok.inj h
    exact hr'
  · rw [heq] at h
    cases h

/-- What has the type that is asked for is kept, or becomes the whole number that it is, unless it
is a date. -/
lemma ConvertsByType.of_hasType (htype : hasType s v = true)
    (htemporal : isTemporal s.format v = false) :
    ConvertsByType s v v ∨
      ∃ x n, v = .float x ∧ x.toInt? = some n ∧ ConvertsByType s v (.int n) := by
  unfold hasType at htype
  cases hs : s.type with
  | none => exact .inl (.unasked v (by rw [Keywords.asksForScalar, hs]))
  | some t =>
    rw [hs] at htype
    cases t with
    | object | array | unknown _ =>
      exact .inl (.unasked v (by rw [Keywords.asksForScalar, hs]))
    | string =>
      rw [htemporal] at htype
      cases v with
      | str text => exact .inl (.text text hs)
      | _ => cases htype
    | number =>
      cases v with
      | int n => exact .inl (.number n hs)
      | float x => exact .inl (.double x hs)
      | _ => cases htype
    | integer =>
      cases v with
      | int n => exact .inl (.integer n hs)
      | float x =>
        obtain ⟨n, hn⟩ := Option.isSome_iff_exists.1 (show x.toInt?.isSome = true from htype)
        exact .inr ⟨x, n, rfl, hn, .wholeDouble hs hn⟩
      | _ => cases htype
    | boolean =>
      cases v with
      | bool b => exact .inl (.boolean b hs)
      | _ => cases htype

/-! ## Dates -/

/-- A date as the format asks for is one of the two kinds. -/
lemma isTemporal_cases {format : Value} (h : isTemporal format v = true) :
    (format = .str "date-time" ∧ ∃ t, v = .dateTime t) ∨
      format = .str "date" ∧ ∃ d, v = .date d := by
  unfold isTemporal at h
  split at h
  next t => exact .inl ⟨rfl, t, rfl⟩
  next d => exact .inr ⟨rfl, d, rfl⟩
  next => cases h

/-- What is no date of either kind is none as the format asks for. -/
lemma isTemporal_eq_false (htime : ∀ t, v ≠ .dateTime t) (hdate : ∀ d, v ≠ .date d)
    (format : Value) : isTemporal format v = false := by
  refine Bool.eq_false_iff.2 fun h => ?_
  rcases isTemporal_cases h with ⟨-, t, heq⟩ | ⟨-, d, heq⟩
  · exact htime t heq
  · exact hdate d heq

/-- Texts become dates where the format names one of the two kinds. -/
lemma format_of_asksForDates (h : asksForDates s = true) :
    s.format = .str "date-time" ∨ s.format = .str "date" := by
  unfold asksForDates at h
  split at h
  next hformat => simpa [hformat, or_comm] using h
  next hformat => simpa [hformat, or_comm] using h
  next => cases h

/-- Texts become dates where a text is asked for, or no type at all. -/
lemma type_of_asksForDates (h : asksForDates s = true) :
    s.type = none ∨ s.type = some .string := by
  unfold asksForDates at h
  split at h
  next htype _ => exact .inl htype
  next htype _ => exact .inr htype
  next => cases h

/-! ## By the schema -/

/-- What goes by the type is converted by it. -/
lemma GoesByType.castScalar_eq (h : GoesByType s v) (path : Path) :
    castScalar s v path = castTyped s v path := by
  unfold castScalar
  rcases h with hdates | ⟨htemporal, htext⟩
  · rw [hdates, if_neg Bool.false_ne_true]
  · rw [htemporal, if_neg Bool.false_ne_true]
    split
    next =>
      split
      next => exact absurd rfl (htext _)
      next => exact absurd rfl (htext _)
      next => rfl
    next => rfl

/-- Where texts do not become dates, values are converted by the type. -/
lemma castScalar_eq_castTyped (h : asksForDates s = false) (v : Value) (path : Path) :
    castScalar s v path = castTyped s v path :=
  GoesByType.castScalar_eq (.inl h) path

/-- What is no text, and no date as the format asks for, is converted by the type, whether texts
become dates or not. -/
lemma castScalar_of_notText (htext : ∀ text, v ≠ .str text)
    (htemporal : isTemporal s.format v = false) :
    castScalar s v path = castTyped s v path :=
  GoesByType.castScalar_eq (.inr ⟨htemporal, htext⟩) path

/-- Where texts become dates, a date as the format asks for is kept. -/
lemma castScalar_of_isTemporal (hdates : asksForDates s = true)
    (hv : isTemporal s.format v = true) (path : Path) : castScalar s v path = pure v := by
  unfold castScalar
  rw [hdates, if_pos rfl, hv, if_pos rfl]

/-- Where texts become dates with a time, a text is read as one. -/
lemma castScalar_dateTime (hdates : asksForDates s = true) (hformat : s.format = .str "date-time")
    (text : String) (path : Path) :
    castScalar s (.str text) path = castTimestamp s text path := by
  unfold castScalar
  rw [hdates, if_pos rfl, hformat]
  rfl

/-- Where texts become dates, a text is read as one. -/
lemma castScalar_dateText (hdates : asksForDates s = true) (hformat : s.format = .str "date")
    (text : String) (path : Path) :
    castScalar s (.str text) path = converted s path (parseDate (.str text)) .date := by
  unfold castScalar
  rw [hdates, if_pos rfl, hformat]
  rfl

/-- The conversion by the schema comes to what the schema makes of the value, to an issue, or to a
timestamp off the calendar. -/
lemma castScalar_cases (s : Schema) (v : Value) :
    (∃ r, Converts s v r ∧ ∀ path, castScalar s v path = pure r) ∨
      (∃ kind message, ∀ path, castScalar s v path = fail kind message path) ∨
      ∃ text, v = .str text ∧ s.format = .str "date-time" ∧
        Timestamp.parse text = .error .offCalendar ∧
        ∀ path, castScalar s v path = stop .offCalendar := by
  by_cases htype : GoesByType s v
  · simp only [htype.castScalar_eq]
    exact (castTyped_cases s v).imp (fun ⟨r, hr, heq⟩ => ⟨r, .typed htype hr, heq⟩) .inl
  obtain ⟨hdates, hdated⟩ := not_or.1 htype
  rw [Bool.not_eq_false] at hdates
  cases htemporal : isTemporal s.format v with
  | true =>
    exact .inl ⟨v, .temporal v hdates htemporal, castScalar_of_isTemporal hdates htemporal⟩
  | false =>
    obtain ⟨text, rfl⟩ : ∃ text, v = .str text := by simpa [htemporal] using hdated
    rcases format_of_asksForDates hdates with hformat | hformat
    · simp only [castScalar_dateTime hdates hformat, castTimestamp]
      rcases hparse : Timestamp.parse text with (e | _) | t
      · exact .inr (.inl ⟨_, _, fun _ => rfl⟩)
      · exact .inr (.inr ⟨text, rfl, hformat, hparse, fun _ => rfl⟩)
      · exact .inl ⟨_, .timestamp hdates hformat hparse, fun _ => rfl⟩
    · simp only [castScalar_dateText hdates hformat]
      exact (converted_cases s _ _).imp
        (fun ⟨d, hd, heq⟩ => ⟨_, .day hdates hformat hd, heq⟩) .inl

/-- What the schema makes of a value is what the conversion comes to. -/
lemma Converts.castScalar_eq (h : Converts s v r) (path : Path) : castScalar s v path = pure r := by
  cases h with
  | temporal _ hdates htemporal => exact castScalar_of_isTemporal hdates htemporal path
  | timestamp hdates hformat hparse =>
    rw [castScalar_dateTime hdates hformat, castTimestamp, hparse]
  | day hdates hformat hparse =>
    rw [castScalar_dateText hdates hformat, hparse]
    rfl
  | typed htype hr => rw [htype.castScalar_eq, hr.castTyped_eq]

/-- **The conversion by the schema** makes what the schema makes of the value. -/
lemma castScalar_outcome_ok : (castScalar s v path).outcome = .ok r ↔ Converts s v r := by
  refine ⟨fun h => ?_, fun h => by rw [h.castScalar_eq]; rfl⟩
  rcases castScalar_cases s v with ⟨r', hr', heq⟩ | ⟨_, _, heq⟩ | ⟨_, _, _, _, heq⟩
  · rw [heq] at h
    obtain rfl := Except.ok.inj h
    exact hr'
  · rw [heq] at h
    cases h
  · rw [heq] at h
    cases h

/-- A date as the format asks for is a scalar of the type, where texts become dates. -/
lemma scalarFrom_of_isTemporal (hdates : asksForDates s = true)
    (h : isTemporal s.format r = true) : ScalarFrom s v r := by
  have htype : hasType s r = true := by
    unfold hasType
    rcases type_of_asksForDates hdates with htype | htype <;> simp [htype, h]
  rcases isTemporal_cases h with ⟨-, t, rfl⟩ | ⟨-, d, rfl⟩
  · exact .inr ⟨rfl, rfl, htype⟩
  · exact .inr ⟨rfl, rfl, htype⟩

/-- A date of the type that is asked for is kept. -/
lemma Converts.of_isTemporal (htype : hasType s v = true) (h : isTemporal s.format v = true) :
    Converts s v v := by
  cases hdates : asksForDates s with
  | true => exact .temporal v hdates h
  | false =>
    refine .typed (.inl hdates) (.unasked v ?_)
    unfold hasType at htype
    unfold asksForDates at hdates
    unfold Keywords.asksForScalar
    rcases isTemporal_cases h with ⟨hformat, t, rfl⟩ | ⟨hformat, d, rfl⟩
    all_goals
      rw [hformat] at hdates
      cases hs : s.type with
      | none => rfl
      | some t =>
        rw [hs] at htype hdates
        cases t with
        | object | array | unknown _ => rfl
        | string | number | integer | boolean => first | cases htype | cases hdates

/-- The schema makes a value of the right kind. -/
lemma Converts.scalarFrom (h : Converts s v r) : ScalarFrom s v r := by
  cases h with
  | temporal _ hdates htemporal => exact scalarFrom_of_isTemporal hdates htemporal
  | timestamp hdates hformat _ => exact scalarFrom_of_isTemporal hdates (by rw [hformat]; rfl)
  | day hdates hformat _ => exact scalarFrom_of_isTemporal hdates (by rw [hformat]; rfl)
  | typed _ hr => exact hr.scalarFrom

/-- **How a conversion by the schema ends**: with a value of the right kind, with an issue, or at a
timestamp off the calendar, and alike wherever the value stands. -/
lemma castScalar_conversion (s : Schema) (v : Value) : Conversion s v (castScalar s v) := by
  rcases castScalar_cases s v with ⟨r, hr, heq⟩ | ⟨kind, message, heq⟩ |
    ⟨text, htext, hformat, hparse, heq⟩
  · exact .result r hr.scalarFrom heq
  · exact .issue kind message heq
  · exact .offCalendar text htext hformat hparse heq

end Casting

end DataSchema
