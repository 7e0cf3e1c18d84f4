import DataSchema.Proofs.Rendering
import DataSchema.Proofs.TypedParts
import DataSchema.Report.Json

set_option autoImplicit false

/-!
# Casting results again

What a cast makes of a JSON value is cast to itself, and so is what is left of it when its dates are
written out. Conversions end at values that they keep, and written dates are read back; no property
that was left out is missed the second time, if required ones are kept.

## Main definitions

* `DataSchema.Value.IsJson` — values that JSON texts decode to.
* `DataSchema.Value.written` — values with their dates written out.
* `DataSchema.IsRendering` — ways to write out dates or not.

## Main results

* `DataSchema.Casting.castScalar_rendering`, `DataSchema.Casting.castObject_rendering`,
  `DataSchema.Casting.castArray_rendering` — scalars, objects and arrays.
* `DataSchema.recast_of_cast` — whole values.
-/

namespace DataSchema

/-! ## JSON values and their renderings -/

namespace Value

/-- A value is one that JSON texts decode to: null, truth values, numbers, texts, lists of such
values, and mappings from texts to such values. -/
inductive IsJson : Value → Prop
  | null : IsJson null
  | bool (b : Bool) : IsJson (bool b)
  | int (n : Int) : IsJson (int n)
  | float (x : Binary64) : IsJson (float x)
  | str (s : String) : IsJson (str s)
  | list {items : List Value} : (∀ v ∈ items, IsJson v) → IsJson (list items)
  | mapping {entries : Entries} : (∀ e ∈ entries, ∃ name, e.1 = str name) →
    (∀ e ∈ entries, IsJson e.2) → IsJson (mapping entries)

mutual

/-- A value with its dates written out in their canonical form. -/
def written : Value → Value
  | date d => str d.text
  | dateTime t => str (Timestamp.render t)
  | list items => list (writtenItems items)
  | tuple items => tuple (writtenItems items)
  | mapping entries => mapping (writtenEntries entries)
  | v => v

/-- Items with their dates written out. -/
def writtenItems : List Value → List Value
  | [] => []
  | v :: vs => written v :: writtenItems vs

/-- Entries with the dates of their values written out. -/
def writtenEntries : List (Value × Value) → List (Value × Value)
  | [] => []
  | (k, v) :: es => (k, written v) :: writtenEntries es

end

/-- Items are written out one by one. -/
lemma writtenItems_eq (items : List Value) : writtenItems items = items.map written := by
  induction items with
  | nil => rfl
  | cons v vs ih => rw [writtenItems, List.map_cons, ih]

/-- Entries are written out one by one. -/
lemma writtenEntries_eq (entries : Entries) :
    writtenEntries entries = entries.map fun e => (e.1, written e.2) := by
  induction entries with
  | nil => rfl
  | cons e es ih => rw [writtenEntries, List.map_cons, ih]

mutual

/-- With its dates written out a value has the JSON text that it had. -/
theorem jsonAt_written (depth : Nat) : ∀ v : Value, v.written.jsonAt depth = v.jsonAt depth
  | null | bool _ | int _ | float _ | str _ | date _ | dateTime _ | record .. | openRecord .. => rfl
  | list items | tuple items => by
    simp only [written, jsonAt, jsonItems_written (depth + 1) items]
  | mapping entries => by
    simp only [written, jsonAt, jsonEntries_written (depth + 1) entries]

/-- With their dates written out items have the JSON texts that they had. -/
theorem jsonItems_written (depth : Nat) : ∀ vs : List Value,
    jsonItems depth (writtenItems vs) = jsonItems depth vs
  | [] => rfl
  | v :: vs => by
    simp only [writtenItems, jsonItems, jsonAt_written depth v, jsonItems_written depth vs]

/-- With the dates of their values written out entries have the JSON texts that they had. -/
theorem jsonEntries_written (depth : Nat) : ∀ es : List (Value × Value),
    jsonEntries depth (writtenEntries es) = jsonEntries depth es
  | [] => rfl
  | (k, v) :: es => by
    simp only [writtenEntries, jsonEntries, jsonAt_written depth v, jsonEntries_written depth es]

end

end Value

/-- To change nothing of the members of a list is to change nothing of the list. -/
lemma map_eq_self {α : Type} {f : α → α} {xs : List α} (h : ∀ x ∈ xs, f x = x) :
    xs.map f = xs := by
  rw [List.map_congr_left (g := id) h, List.map_id]

/-- A rendering writes out dates or keeps them, and keeps all else. -/
structure IsRendering (f : Value → Value) : Prop where
  null : f .null = .null
  bool : ∀ b, f (.bool b) = .bool b
  int : ∀ n, f (.int n) = .int n
  float : ∀ x, f (.float x) = .float x
  str : ∀ s, f (.str s) = .str s
  date : ∀ d, f (.date d) = .date d ∨ f (.date d) = .str d.text
  dateTime : ∀ t, f (.dateTime t) = .dateTime t ∨ f (.dateTime t) = .str (Timestamp.render t)
  list : ∀ items, f (.list items) = .list (items.map f)
  mapping : ∀ entries, f (.mapping entries) = .mapping (entries.map fun e => (e.1, f e.2))
  isNull : ∀ v, (f v).isNull = v.isNull
  isObject : ∀ v, (f v).isObject = v.isObject
  isArray : ∀ v, (f v).isArray = v.isArray

namespace IsRendering

/-- To keep values is a rendering. -/
lemma keep : IsRendering id where
  null := rfl
  bool _ := rfl
  int _ := rfl
  float _ := rfl
  str _ := rfl
  date _ := .inl rfl
  dateTime _ := .inl rfl
  list items := by rw [List.map_id]; rfl
  mapping entries := by simp
  isNull _ := rfl
  isObject _ := rfl
  isArray _ := rfl

/-- To write out all dates is a rendering. -/
lemma written : IsRendering Value.written where
  null := rfl
  bool _ := rfl
  int _ := rfl
  float _ := rfl
  str _ := rfl
  date _ := .inr rfl
  dateTime _ := .inr rfl
  list items := by rw [Value.written, Value.writtenItems_eq]
  mapping entries := by rw [Value.written, Value.writtenEntries_eq]
  isNull v := by cases v <;> rfl
  isObject v := by cases v <;> rfl
  isArray v := by cases v <;> rfl

variable {f : Value → Value}

/-- A JSON value has no dates to write out. -/
lemma eq_self (hf : IsRendering f) {v : Value} (hv : v.IsJson) : f v = v := by
  induction hv with
  | null => exact hf.null
  | bool b => exact hf.bool b
  | int n => exact hf.int n
  | float x => exact hf.float x
  | str s => exact hf.str s
  | list _ ih => rw [hf.list, map_eq_self ih]
  | mapping _ _ ih =>
    rw [hf.mapping, map_eq_self fun e he => by rw [ih e he]]

end IsRendering

namespace Entries

/-- Where all values are changed alike, a key has the change of its value. -/
lemma get?_map (es : Entries) (f : Value → Value) (k : Value) :
    get? (es.map fun e => (e.1, f e.2)) k = (es.get? k).map f := by
  induction es with
  | nil => rfl
  | cons e es ih =>
    rw [List.map_cons, get?_cons, get?_cons, ih]
    dsimp only
    split <;> rfl

/-- Where all values are changed alike, the keys stay. -/
lemma keys_map (es : Entries) (f : Value → Value) :
    (es.map fun e => (e.1, f e.2)).map Prod.fst = es.map Prod.fst := by
  rw [List.map_map]
  rfl

end Entries

namespace Casting

open Validation

variable {context : CastContext} {child : NodeCaster} {check : NodeChecker} {s : Schema}
  {v r : Value} {path : Path} {active opened : List String} {f : Value → Value}

/-! ## Scalars -/

/-- A type makes a JSON value of one, and keeps what it made. -/
lemma ConvertsByType.again (hv : v.IsJson) (h : ConvertsByType s v r) :
    r.IsJson ∧ ConvertsByType s r r := by
  cases h with
  | unasked _ hasks => exact ⟨hv, .unasked v hasks⟩
  | text text htype => exact ⟨hv, .text text htype⟩
  | number n htype => exact ⟨hv, .number n htype⟩
  | double x htype => exact ⟨hv, .double x htype⟩
  | numberText htype _ => exact ⟨.float _, .double _ htype⟩
  | integer n htype => exact ⟨hv, .integer n htype⟩
  | wholeDouble htype _ => exact ⟨.int _, .integer _ htype⟩
  | integerText htype _ => exact ⟨.int _, .integer _ htype⟩
  | boolean b htype => exact ⟨hv, .boolean b htype⟩
  | booleanText htype _ => exact ⟨.bool _, .boolean _ htype⟩

/-- Where texts become dates, all else that goes by the type is kept. -/
lemma ConvertsByType.eq_of_asksForDates (hdates : asksForDates s = true)
    (h : ConvertsByType s v r) : r = v := by
  cases h with
  | unasked | text | number | double | integer | boolean => rfl
  | numberText htype _ | wholeDouble htype _ | integerText htype _ | booleanText htype _ =>
    rcases type_of_asksForDates hdates with hother | hother
    · cases htype.symm.trans hother
    · cases htype.symm.trans hother

/-- **A converted value is converted to itself**, and so is what is left of it when dates are
written out. -/
lemma castScalar_rendering (hf : IsRendering f) (hv : v.IsJson)
    (h : (castScalar s v path).outcome = .ok r) :
    (castScalar s (f r) path).outcome = .ok r := by
  rw [castScalar_outcome_ok] at h ⊢
  cases h with
  | temporal _ hdates htemporal =>
    rw [hf.eq_self hv]
    exact .temporal v hdates htemporal
  | timestamp hdates hformat hparse =>
    rcases hf.dateTime _ with hkept | hwritten
    · rw [hkept]
      exact .temporal _ hdates (by rw [hformat]; rfl)
    · rw [hwritten]
      exact .timestamp hdates hformat (Timestamp.parse_render (Timestamp.offset_of_parse hparse))
  | day hdates hformat _ =>
    rcases hf.date _ with hkept | hwritten
    · rw [hkept]
      exact .temporal _ hdates (by rw [hformat]; rfl)
    · rw [hwritten]
      exact .day hdates hformat (parseDate_text _)
  | typed hgoes hr =>
    obtain ⟨hjson, hagain⟩ := hr.again hv
    rw [hf.eq_self hjson]
    refine .typed ?_ hagain
    cases hdates : asksForDates s with
    | false => exact .inl hdates
    | true => rwa [hr.eq_of_asksForDates hdates]

/-! ## Objects -/

/-- Declared properties of a result are cast to what they are, if their nodes do so.

**Proof sketch.** Induction on the declarations. The first name is found at the head of the result,
and as no other declaration has it, the others are found in the rest. -/
lemma castDeclared_rendering {data data' result : Entries} {ps : List (String × Node)}
    (hnames : (ps.map Prod.fst).Nodup)
    (hchild : ∀ p ∈ ps, ∀ v r, data.get? (.str p.1) = some v →
      (child p.2 v (path ++ [.str p.1]) active).outcome = .ok r →
      (child p.2 (f r) (path ++ [.str p.1]) opened).outcome = .ok r)
    (hdata : ∀ p ∈ ps, data'.get? (.str p.1) = (result.get? (.str p.1)).map f)
    (h : (castDeclared child data path active ps).outcome = .ok result) :
    (castDeclared child data' path opened ps).outcome = .ok result := by
  induction ps generalizing result with
  | nil => exact h
  | cons p ps ih =>
    obtain ⟨hfresh, hnames⟩ := List.nodup_cons.1 hnames
    have habsent : data.get? (.str p.1) = none → result.get? (.str p.1) = none :=
      castDeclared_get?_absent h
    have hother : ∀ q ∈ ps, q.1 ≠ p.1 := fun q hq heq =>
      hfresh (heq ▸ List.mem_map_of_mem hq)
    have hhere := hdata p List.mem_cons_self
    have hchild' := fun q hq => hchild q (List.mem_cons_of_mem p hq)
    unfold castDeclared at h ⊢
    cases hv : data.get? (.str p.1) with
    | none =>
      rw [hv] at h
      rw [hhere, habsent hv]
      exact ih hnames hchild' (fun q hq => hdata q (List.mem_cons_of_mem p hq)) h
    | some v =>
      rw [hv] at h
      obtain ⟨r, hr, hrest⟩ := bind_outcome_ok.1 h
      obtain ⟨others, hothers, hlast⟩ := bind_outcome_ok.1 hrest
      obtain rfl := Except.ok.inj hlast
      rw [Entries.get?_cons, if_pos (Value.sameKey_str.2 rfl)] at hhere
      have hdata' : ∀ q ∈ ps, data'.get? (.str q.1) = (others.get? (.str q.1)).map f := by
        intro q hq
        have hne : ¬ (Value.str p.1).sameKey (.str q.1) = true := by
          rw [Value.sameKey_str, Value.str.injEq]
          exact fun heq => hother q hq heq.symm
        rw [hdata q (List.mem_cons_of_mem p hq), Entries.get?_cons, if_neg hne]
      rw [hhere]
      refine bind_outcome_ok.2 ⟨r, hchild p List.mem_cons_self v r hv hr, ?_⟩
      exact bind_outcome_ok.2 ⟨others, ih hnames hchild' hdata' hothers, rfl⟩

/-- Undeclared properties of a result are cast to what they are, if their node does so. -/
lemma castExtra_rendering {extra result : Entries} (hf : IsRendering f)
    (hextra : ∀ e ∈ extra, e.2.IsJson)
    (hchild : ∀ node, s.additional = .schema node → ∀ v r p, v.IsJson →
      (child node v p active).outcome = .ok r → (child node (f r) p opened).outcome = .ok r)
    (h : (castExtra child s extra path active).outcome = .ok result) :
    (castExtra child s (result.map fun e => (e.1, f e.2)) path opened).outcome = .ok result := by
  rcases castExtra_outcome_ok.1 h with ⟨hnone, rfl⟩ | ⟨node, hnode, -⟩
  · refine castExtra_outcome_ok.2 (.inl ⟨hnone, ?_⟩)
    split
    · exact (map_eq_self fun e he => by rw [hf.eq_self (hextra e he)]).symm
    · rfl
  · refine castExtra_outcome_ok.2 (.inr ⟨node, hnode, ?_⟩)
    rw [List.forall₂_map_left_iff, List.forall₂_same]
    intro e he
    obtain ⟨v, hmem, hv⟩ := castExtra_schema hnode h e he
    exact ⟨hchild node hnode v e.2 _ (hextra _ hmem) hv, rfl⟩

/-- **An object that was cast is cast to itself**, and so is what is left of it when dates are
written out. -/
lemma castObject_rendering (hf : IsRendering f) (hv : v.IsJson)
    (hnames : (s.declared.map Prod.fst).Nodup)
    (hrequired : ∀ n ∈ s.required, s.declares n = true ∨ keepsExtra s = true)
    (hchild : ∀ c ∈ s.partNodes, ∀ v r path, v.IsJson →
      (child c v path active).outcome = .ok r → (child c (f r) path opened).outcome = .ok r)
    (h : (castObject child s v path active).outcome = .ok r) :
    (castObject child s (f r) path opened).outcome = .ok r := by
  obtain ⟨data, declared, others, hview, hthere, hforbidden, hdeclared, hothers, hfew, hmany,
    rfl⟩ := castObject_outcome_ok.1 h
  have hparts : ∀ e ∈ data, e.2.IsJson := by
    cases hv with
    | mapping _ hparts =>
      obtain rfl := Option.some.inj hview
      exact hparts
    | _ => cases hview
  have hundeclared : undeclared s ((declared ++ others).map fun e => (e.1, f e.2)) =
      others.map fun e => (e.1, f e.2) := by
    have hresult := Soundness.undeclared_result_eq hdeclared hothers
    unfold undeclared at hresult ⊢
    rw [List.filter_map]
    exact congrArg _ hresult
  have hproperties : (castDeclared child ((declared ++ others).map fun e => (e.1, f e.2)) path
      opened s.declared).outcome = .ok declared := by
    refine castDeclared_rendering (f := f) hnames (fun p hp v r hget hr => ?_) (fun p hp => ?_)
      hdeclared
    · exact hchild p.2 (Keywords.mem_partNodes_declared hp) v r _
        (hparts _ (Entries.mem_of_get? hget)) hr
    · rw [Entries.get?_map,
        Soundness.get?_result hothers (Keywords.declares_iff.2 ⟨p, hp, rfl⟩)]
  have hextra : (castExtra child s (others.map fun e => (e.1, f e.2)) path opened).outcome =
      .ok others :=
    castExtra_rendering hf (fun e he => hparts e (List.mem_filter.1 he).1)
      (fun node hnode v r p => hchild node (Keywords.mem_partNodes_additional hnode) v r p) hothers
  rw [hf.mapping]
  refine castObject_outcome_ok.2 ⟨_, declared, others, rfl, fun n hn => ⟨(hthere n hn).1, ?_⟩,
    fun hadditional => ?_, hproperties, hundeclared ▸ hextra, hfew, hmany, rfl⟩
  · rw [Entries.has_of_keys (Entries.keys_map _ f)]
    exact Soundness.has_of_required (hrequired n hn) (hthere n hn).2 hdeclared hothers
  · have hnone := Soundness.undeclared_result_eq_nil hadditional hdeclared hothers
    rw [Soundness.undeclared_result_eq hdeclared hothers] at hnone
    rw [hundeclared, hnone]
    rfl

/-! ## Arrays -/

/-- **An array that was cast is cast to itself**, and so is what is left of it when dates are
written out. -/
lemma castArray_rendering (hf : IsRendering f) (hv : v.IsJson)
    (hchild : ∀ c ∈ s.partNodes, ∀ v r path, v.IsJson →
      (child c v path active).outcome = .ok r → (child c (f r) path opened).outcome = .ok r)
    (h : (castArray child s v path active).outcome = .ok r) :
    (castArray child s (f r) path opened).outcome = .ok r := by
  obtain ⟨items, result, hitems, hresult, hfew, hmany, hunique, rfl⟩ := castArray_outcome_ok.1 h
  have hparts : ∀ w ∈ items, w.IsJson := by
    cases hv with
    | list hparts =>
      obtain rfl := Option.some.inj hitems
      exact hparts
    | _ => cases hitems
  have hagain : (castItems child s (result.map f) path opened).outcome = .ok result := by
    cases hnode : s.items with
    | none =>
      unfold castItems at hresult ⊢
      rw [hnode] at hresult ⊢
      obtain rfl := Except.ok.inj hresult
      rw [map_eq_self fun w hw => hf.eq_self (hparts w hw)]
      rfl
    | some node =>
      refine castItems_of_getElem? hnode (List.length_map f) fun i w r hw hr => ?_
      obtain ⟨u, hu, hcast⟩ := castItems_getElem? hnode hresult hr
      rw [List.getElem?_map, hr] at hw
      obtain rfl := Option.some.inj hw
      exact hchild node (Keywords.mem_partNodes_items hnode) u r _
        (hparts u (List.mem_of_getElem? hu)) hcast
  rw [hf.list]
  exact castArray_outcome_ok.2 ⟨_, result, rfl, hagain, hfew, hmany, hunique, rfl⟩

/-! ## Schemas and nodes -/

/-- What is cast as no object is replaced by something that is cast as none, if that is none. -/
lemma castsObject_eq_false {w : Value} (h : castsObject s v = false) (hw : w.isObject = false) :
    castsObject s w = false := by
  rw [Bool.eq_false_iff, ne_eq, castsObject_eq_true] at h ⊢
  rintro (htype | ⟨-, -, hobject⟩)
  · exact h (.inl htype)
  · exact Bool.false_ne_true (hw.symm.trans hobject)

/-- What is cast as no array is replaced by something that is cast as none, if that is none. -/
lemma castsArray_eq_false {w : Value} (h : castsArray s v = false) (hw : w.isArray = false) :
    castsArray s w = false := by
  rw [Bool.eq_false_iff, ne_eq, castsArray_eq_true] at h ⊢
  rintro (htype | ⟨-, -, harray⟩)
  · exact h (.inl htype)
  · exact Bool.false_ne_true (hw.symm.trans harray)

/-- An object takes the place of what is cast as an object. -/
lemma castsObject_of_isObject {w : Value} (h : castsObject s v = true) (hw : w.isObject = true) :
    castsObject s w = true :=
  castsObject_eq_true.2 ((castsObject_eq_true.1 h).imp_right fun hs => ⟨hs.1, hs.2.1, hw⟩)

/-- An array takes the place of what is cast as an array. -/
lemma castsArray_of_isArray {w : Value} (h : castsArray s v = true) (hw : w.isArray = true) :
    castsArray s w = true :=
  castsArray_eq_true.2 ((castsArray_eq_true.1 h).imp_right fun hs => ⟨hs.1, hs.2.1, hw⟩)

/-- **The shape of a schema casts what it made to itself**, and so what is left of it when dates are
written out. -/
lemma castOwn_rendering (hf : IsRendering f) (hv : v.IsJson)
    (hnames : (s.declared.map Prod.fst).Nodup)
    (hrequired : ∀ n ∈ s.required, s.declares n = true ∨ keepsExtra s = true)
    (hchild : ∀ c ∈ s.partNodes, ∀ v r path, v.IsJson →
      (child c v path active).outcome = .ok r → (child c (f r) path opened).outcome = .ok r)
    (h : (castOwn child s v path active).outcome = .ok r) :
    (castOwn child s (f r) path opened).outcome = .ok r := by
  rcases castOwn_outcome_ok.1 h with
    ⟨hobject, h⟩ | ⟨hobject, harray, h⟩ | ⟨hobject, harray, h, henum, hscalar⟩
  · have hr : (f r).isObject = true := by
      obtain ⟨data, declared, others, -, -, -, -, -, -, -, rfl⟩ := castObject_outcome_ok.1 h
      rw [hf.isObject]
      rfl
    exact castOwn_outcome_ok.2 (.inl ⟨castsObject_of_isObject hobject hr,
      castObject_rendering hf hv hnames hrequired hchild h⟩)
  · have hr : (f r).isObject = false ∧ (f r).isArray = true := by
      obtain ⟨items, result, -, -, -, -, -, rfl⟩ := castArray_outcome_ok.1 h
      rw [hf.isObject, hf.isArray]
      exact ⟨rfl, rfl⟩
    exact castOwn_outcome_ok.2 (.inr (.inl ⟨castsObject_eq_false hobject hr.1,
      castsArray_of_isArray harray hr.2, castArray_rendering hf hv hchild h⟩))
  · have hr : castsObject s (f r) = false ∧ castsArray s (f r) = false := by
      rcases (castScalar_outcome_ok.1 h).scalarFrom with ⟨-, rfl⟩ | ⟨hnot, hnot', -⟩
      · rw [hf.eq_self hv]
        exact ⟨hobject, harray⟩
      · exact ⟨castsObject_eq_false hobject (by rw [hf.isObject, hnot]),
          castsArray_eq_false harray (by rw [hf.isArray, hnot'])⟩
    exact castOwn_outcome_ok.2 (.inr (.inr ⟨hr.1, hr.2, castScalar_rendering hf hv h, henum,
      hscalar⟩))

/-- What the conversion by the schema makes null was null. -/
lemma eq_null_of_castScalar (h : (castScalar s v path).outcome = .ok .null) : v = .null := by
  cases castScalar_outcome_ok.1 h with
  | temporal => rfl
  | typed _ hr =>
    cases hr with
    | unasked => rfl

/-- What the shape of a schema makes null was null. -/
lemma eq_null_of_castOwn (h : (castOwn child s v path active).outcome = .ok .null) : v = .null := by
  rcases castOwn_outcome_ok.1 h with ⟨-, h⟩ | ⟨-, -, h⟩ | ⟨-, -, h, -⟩
  · obtain ⟨_, _, _, -, -, -, -, -, -, -, hnull⟩ := castObject_outcome_ok.1 h
    cases hnull
  · obtain ⟨_, _, -, -, -, -, -, hnull⟩ := castArray_outcome_ok.1 h
    cases hnull
  · exact eq_null_of_castScalar h

end Casting

/-- What is cast by a schema is not missed when the result is cast again: the schema casts by its
own shape only, and leaves out no property that it asks for. -/
structure Keywords.CastsAgain (s : Schema) : Prop where
  /-- The schema is not composed. -/
  composed : s.isComposed = false
  /-- No other schema is selected. -/
  discriminator : s.discriminator = none
  /-- No record is built. -/
  targetType : s.targetType = .absent
  /-- Required properties are not left out. -/
  required : ∀ n ∈ s.required, s.declares n = true ∨ Casting.keepsExtra s = true
  /-- Properties are declared once. -/
  names : (s.declared.map Prod.fst).Nodup

open Casting

/-- **Nodes cast what they made to itself**, and so what is left of it when dates are written out.

**Proof sketch.** By induction on the depth a node casts by a shape alone, and the shape casts its
result again if the parts do. A result that null takes for allowed was made of null, so that it is
let through, or not, as the value was. -/
theorem castNode_rendering {context : CastContext} {f : Value → Value} (hf : IsRendering f)
    {node : Node} (hs : ∀ s, context.registry.Reaches Keywords.partNodes node s → s.CastsAgain)
    {depth : Nat} {v r : Value} {path : Path} {active : List String} (hv : v.IsJson)
    (h : (castNode context depth node v path active).outcome = .ok r) (opened : List String) :
    (castNode context depth node (f r) path opened).outcome = .ok r := by
  refine castNode_induction (N := Keywords.partNodes) (H := Keywords.CastsAgain)
    (M := fun depth c v r path => v.IsJson → ∀ opened,
      (castNode context depth c (f r) path opened).outcome = .ok r)
    ?_ ?_ ?_ hs h hv opened
  · intro depth name s v r path hget hagain hv opened
    rw [castNode_named hget]
    exact hagain hv _
  · intro depth name other v r path hget hagain hv opened
    rw [castNode_link hget]
    exact hagain hv _
  · intro depth s v r path active hs hparts h hv opened
    refine (castSchema_outcome_ok hs.discriminator).2 ?_
    rw [hf.isNull]
    rcases (castSchema_outcome_ok hs.discriminator).1 h with ⟨hnull, rfl⟩ | ⟨hnot, htyped, hcast⟩
    · exact .inl ⟨(Bool.and_eq_true_iff.1 hnull).2, rfl⟩
    · obtain ⟨hown, hrefuse⟩ := (castComposed_plain hs.composed hs.targetType).1 hcast
      have hkept : r.isNull = true → v = r := by
        intro hr
        cases r with
        | null => exact eq_null_of_castOwn hown
        | _ => cases hr
      have hnull : ∀ b, (v.isNull && b) = false → (r.isNull && b) = false := by
        intro b hb
        cases hr : r.isNull with
        | false => rfl
        | true => rwa [hkept hr, hr] at hb
      have hagain : (castOwn (castNode context depth) s (f r) path opened).outcome = .ok r :=
        castOwn_rendering hf hv hs.names hs.required
          (fun c hc v r path hv hcast => hparts c hc v r path active hcast hv opened) hown
      exact .inr ⟨hnull _ hnot, hnull _ htyped,
        (castComposed_plain hs.composed hs.targetType).2 ⟨hagain, hrefuse⟩⟩

/-- **Results of casts are cast to themselves**, directly and with their dates written out. If every
reachable schema casts by its own shape only and leaves out no property that it requires, then of
what it makes of a JSON value it makes the same again, and also of that with every date in its
canonical form, which is how JSON texts give it. -/
theorem recast_of_cast {context : CastContext} {node : Node}
    (hs : ∀ s, context.registry.Reaches Keywords.partNodes node s → s.CastsAgain) {v r : Value}
    (hv : v.IsJson) (h : (cast context node v).outcome = .ok (.ok r)) :
    (cast context node r).outcome = .ok (.ok r) ∧
      (cast context node r.written).outcome = .ok (.ok r) ∧ r.written.json = r.json := by
  have hcast := cast_outcome_ok.1 h
  exact ⟨cast_outcome_ok.2 (castNode_rendering .keep hs hv hcast []),
    cast_outcome_ok.2 (castNode_rendering .written hs hv hcast []), r.jsonAt_written 0⟩

/-- A day, with the time at which it begins and a count, which has to be there. -/
def entry : Schema where
  type := some .object
  properties := some [("day", .schema { type := some .string, format := .str "date" }),
    ("begins", .schema { format := .str "date-time" }),
    ("count", .schema { type := some .integer })]
  required := [.str "count"]

/-- Entries under any names. -/
def diary : Schema where
  type := some .object
  additional := .schema (.ref "Entry")

/-- The schema of entries has a name. -/
def diaryRegistry : Registry := ⟨[("Entry", .schema entry)]⟩

/-- Diaries and their entries are cast again. -/
lemma diary_castsAgain (s : Schema)
    (h : diaryRegistry.Reaches Keywords.partNodes (.schema diary) s) : s.CastsAgain := by
  have hleaf : ∀ t f s, Registry.Reaches diaryRegistry Keywords.partNodes
      (.schema { type := t, format := f }) s → s.CastsAgain := by
    intro t f s h
    cases h with
    | here => exact ⟨rfl, rfl, rfl, by simp, List.nodup_nil⟩
    | child hc _ => cases hc
  cases h with
  | here => exact ⟨rfl, rfl, rfl, by simp [diary], List.nodup_nil⟩
  | child hc h =>
    rw [List.mem_singleton.1 hc] at h
    cases h with
    | ref hget h =>
      obtain rfl := Option.some.inj hget
      cases h with
      | here =>
        refine ⟨rfl, rfl, rfl, fun n hn => .inl ?_, by decide⟩
        rw [List.mem_singleton.1 hn]
        simp [entry, Keywords.declares, Keywords.declared, Value.equal]
      | child hc h =>
        have hparts : entry.partNodes = [.schema { type := some .string, format := .str "date" },
          .schema { format := .str "date-time" }, .schema { type := some .integer }] := rfl
        rw [hparts] at hc
        simp only [List.mem_cons, List.not_mem_nil, or_false] at hc
        rcases hc with rfl | rfl | rfl
        · exact hleaf _ _ s h
        · exact hleaf _ _ s h
        · exact hleaf _ _ s h

/-- The first minute of a year in universal time. -/
def yearBegins : DateTime := ⟨⟨2024, 1, 1, by decide⟩, ⟨0, 0, 0, 0, by decide, by decide,
  by decide, by decide⟩, some .utc⟩

/-- An entry of which the time is given in the east, with a property that is left out, is cast to
the time in universal time, and what is printed of it is cast to the same. -/
theorem entry_recast :
    (cast ⟨diaryRegistry, .generic, 9⟩ (.schema diary) (.mapping [(.str "new year", .mapping [
        (.str "begins", .str "2024-01-01 02:00+02:00"), (.str "count", .str " 07"),
        (.str "more", .null)])])).outcome =
      .ok (.ok (.mapping [(.str "new year", .mapping [(.str "begins", .dateTime yearBegins),
        (.str "count", .int 7)])])) ∧
    (cast ⟨diaryRegistry, .generic, 9⟩ (.schema diary) (.mapping [(.str "new year", .mapping [
        (.str "begins", .str (Timestamp.render yearBegins)), (.str "count", .int 7)])])).outcome =
      .ok (.ok (.mapping [(.str "new year", .mapping [(.str "begins", .dateTime yearBegins),
        (.str "count", .int 7)])])) := by
  have hcast : (cast ⟨diaryRegistry, .generic, 9⟩ (.schema diary) (.mapping [
      (.str "new year", .mapping [(.str "begins", .str "2024-01-01 02:00+02:00"),
        (.str "count", .str " 07"), (.str "more", .null)])])).outcome =
      .ok (.ok (.mapping [(.str "new year", .mapping [(.str "begins", .dateTime yearBegins),
        (.str "count", .int 7)])])) := by cbv
  have hjson : Value.IsJson (.mapping [(.str "new year", .mapping [
      (.str "begins", .str "2024-01-01 02:00+02:00"), (.str "count", .str " 07"),
      (.str "more", .null)])]) := by
    refine .mapping (by simp) ?_
    simp only [List.mem_singleton, forall_eq]
    refine .mapping (by simp) ?_
    simp only [List.forall_mem_cons]
    exact ⟨.str _, .str _, .null, by simp⟩
  exact ⟨hcast, (recast_of_cast diary_castsAgain hjson hcast).2.1⟩

end DataSchema
