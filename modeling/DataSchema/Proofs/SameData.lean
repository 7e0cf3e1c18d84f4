import DataSchema.Proofs.Conformance
import DataSchema.Proofs.NamedEntries

set_option autoImplicit false

/-!
# Values with the same data

Two values have the same data if they differ in the order of their properties, in the kind of their
numbers, and in the kind of their arrays alone. JSON equality sees none of these differences, so
such values equal the same values, and lists of them have their first repetition at the same place.

## Main definitions

* `DataSchema.Value.SameData` — values with the same data.

## Main results

* `DataSchema.Value.SameData.jsonEqual_left`, `DataSchema.Value.SameData.jsonEqual_right` — values
  with the same data equal the same values.
* `DataSchema.Value.SameData.jsonEqual` — they equal each other, if the first equals itself.
* `DataSchema.Conformance.firstRepeated_sameData` — lists of such values repeat alike.
-/

namespace DataSchema

namespace Value

/-- Items at one place stand side by side. -/
lemma getElem_mem_zip {vs rs : List Value} {i : Nat} (hv : i < vs.length) (hr : i < rs.length) :
    (vs[i], rs[i]) ∈ vs.zip rs :=
  List.mem_iff_getElem.2 ⟨i, by rw [List.length_zip]; omega, List.getElem_zip⟩

/-- Values have the same data if they are the same, if they are numbers at one place, if they are
arrays with the same data item by item, or objects with the same data name by name. -/
inductive SameData : Value → Value → Prop
  /-- A value has the same data as itself. -/
  | same (v : Value) : SameData v v
  /-- Numbers at one place have the same data. -/
  | number {v w : Value} {a b : Number} : v.number? = some a → w.number? = some b →
    a.extent? = b.extent? → SameData v w
  /-- Arrays have the same data if their items do. -/
  | array {v w : Value} {vs ws : List Value} : v.items? = some vs → w.items? = some ws →
    vs.length = ws.length → (∀ p ∈ vs.zip ws, SameData p.1 p.2) → SameData v w
  /-- Objects have the same data if their properties do. -/
  | mapping {es fs : Entries} : es.Named → fs.Named →
    (∀ name, (es.get? (.str name)).isSome = (fs.get? (.str name)).isSome) →
    (∀ name v w, es.get? (.str name) = some v → fs.get? (.str name) = some w → SameData v w) →
    SameData (mapping es) (mapping fs)

/-! ## Equality with other values -/

/-- A number that is compared counts by its place alone. -/
lemma equalsNumber_congr {a b : Number} (h : a.extent? = b.extent?) (u : Value) :
    equalsNumber a u = equalsNumber b u := by
  unfold equalsNumber
  cases u.operand? with
  | none => rfl
  | some m => simp only [Number.equal, h]

/-- Equality of the entries of objects, entry by entry. -/
lemma jsonEqualEntries_eq (as bs : Entries) : jsonEqualEntries as bs =
    as.all fun e => (bs.find? fun e' => equal e.1 e'.1).any fun e' => jsonEqual e.2 e'.2 := by
  induction as with
  | nil => rfl
  | cons e as ih =>
    rw [jsonEqualEntries, List.all_cons, ih]
    cases bs.find? fun e' => equal e.1 e'.1 <;> rfl

/-- Equality of the entries of objects, name by name. -/
lemma jsonEqualEntries_named {as bs : Entries} (h : bs.Named) :
    jsonEqualEntries as bs = as.all fun e => (bs.get? e.1).any (jsonEqual e.2) := by
  rw [jsonEqualEntries_eq]
  refine congrArg as.all (funext fun e => ?_)
  rw [← h.find?_equal, Option.any_map]

/-- Items that equal each other alike make arrays that do. -/
lemma jsonEqualItems_congr {R S : Value → Value → Prop} {as as' bs bs' : List Value}
    (has : List.Forall₂ R as as') (hbs : List.Forall₂ S bs bs')
    (h : ∀ {a a' b b'}, R a a' → S b b' → a.jsonEqual b = a'.jsonEqual b') :
    jsonEqualItems as bs = jsonEqualItems as' bs' := by
  induction has generalizing bs bs' with
  | nil => cases hbs <;> rfl
  | cons ha _ ih =>
    cases hbs with
    | nil => rfl
    | cons hb hbs => rw [jsonEqualItems, jsonEqualItems, h ha hb, ih hbs]

/-- A number equals the values whose number is at its place; truth values are none. -/
lemma jsonEqual_of_number {v : Value} {a : Number} (h : v.number? = some a) (u : Value) :
    v.jsonEqual u = match u with
      | bool _ => false
      | u => equalsNumber a u := by
  cases v with
  | int n =>
    obtain rfl := Option.some.inj h
    cases u <;> rfl
  | float x =>
    obtain rfl := Option.some.inj h
    cases u <;> rfl
  | _ => cases h

/-- A number is equalled by numbers at its place. -/
lemma jsonEqual_number {v : Value} {a : Number} (h : v.number? = some a) (u : Value) :
    u.jsonEqual v = u.number?.any fun b => b.equal a := by
  cases v with
  | int n =>
    obtain rfl := Option.some.inj h
    cases u <;> rfl
  | float x =>
    obtain rfl := Option.some.inj h
    cases u <;> rfl
  | _ => cases h

/-- An array equals arrays of either kind, item by item. -/
lemma jsonEqual_of_items {v : Value} {vs : List Value} (h : v.items? = some vs) (u : Value) :
    v.jsonEqual u = u.items?.any fun us => jsonEqualItems vs us := by
  cases v with
  | list xs =>
    obtain rfl := Option.some.inj h
    cases u <;> rfl
  | tuple xs =>
    obtain rfl := Option.some.inj h
    cases u <;> rfl
  | _ => cases h

/-- An array is equalled by arrays of either kind, item by item. -/
lemma jsonEqual_items {v : Value} {vs : List Value} (h : v.items? = some vs) (u : Value) :
    u.jsonEqual v = u.items?.any fun us => jsonEqualItems us vs := by
  cases v with
  | list xs =>
    obtain rfl := Option.some.inj h
    cases u <;> rfl
  | tuple xs =>
    obtain rfl := Option.some.inj h
    cases u <;> rfl
  | _ => cases h

namespace SameData

variable {v w : Value}

/-- **Values with the same data equal the same values.** -/
lemma jsonEqual_left (h : v.SameData w) (u : Value) : v.jsonEqual u = w.jsonEqual u := by
  induction h generalizing u with
  | same v => rfl
  | number hv hw hextent =>
    rw [jsonEqual_of_number hv, jsonEqual_of_number hw]
    split
    · rfl
    · exact equalsNumber_congr hextent _
  | array hv hw hlength _ ih =>
    rw [jsonEqual_of_items hv, jsonEqual_of_items hw]
    refine congrArg u.items?.any (funext fun us => ?_)
    refine jsonEqualItems_congr (List.forall₂_iff_zip.2 ⟨hlength, fun hp => ih _ hp⟩)
      (List.forall₂_same.2 fun _ _ => Eq.refl _) fun ha hb => ?_
    exact hb ▸ ha _
  | @mapping es fs hes hfs hsame _ ih =>
    have hlength : es.length = fs.length := by
      simpa using (hes.keys_perm hfs hsame).length_eq
    cases u with
    | mapping us =>
      rw [jsonEqual, jsonEqual, hlength, jsonEqualEntries_eq, jsonEqualEntries_eq]
      congr 1
      refine hes.all_eq hfs hsame fun name v w hv hw => ?_
      simp only [ih name v w hv hw]
    | _ => simp [jsonEqual, equal]

/-- **The same values equal values with the same data.** -/
lemma jsonEqual_right (h : v.SameData w) (u : Value) : u.jsonEqual v = u.jsonEqual w := by
  induction h generalizing u with
  | same v => rfl
  | number hv hw hextent =>
    rw [jsonEqual_number hv, jsonEqual_number hw]
    simp only [Number.equal, hextent]
  | array hv hw hlength _ ih =>
    rw [jsonEqual_items hv, jsonEqual_items hw]
    refine congrArg u.items?.any (funext fun us => ?_)
    refine jsonEqualItems_congr (List.forall₂_same.2 fun _ _ => Eq.refl _)
      (List.forall₂_iff_zip.2 ⟨hlength, fun hp => ih _ hp⟩) fun ha hb => ?_
    exact ha ▸ hb _
  | @mapping es fs hes hfs hsame _ ih =>
    have hlength : es.length = fs.length := by
      simpa using (hes.keys_perm hfs hsame).length_eq
    cases u with
    | mapping us =>
      rw [jsonEqual, jsonEqual, hlength, jsonEqualEntries_named hes, jsonEqualEntries_named hfs]
      congr 1
      refine congrArg us.all (funext fun e => ?_)
      exact hes.any_get?_eq hfs hsame (fun name v w hv hw => ih name v w hv hw e.2) e.1
    | _ => simp [jsonEqual, equal, equalsNumber, operand?, number?]

/-- Values with the same data equal one of several values alike. -/
lemma any_jsonEqual (h : v.SameData w) {vs ws : List Value}
    (hall : List.Forall₂ SameData vs ws) : vs.any v.jsonEqual = ws.any w.jsonEqual := by
  induction hall with
  | nil => rfl
  | cons hfirst _ ih =>
    rw [List.any_cons, List.any_cons, ih, hfirst.jsonEqual_right, h.jsonEqual_left]

/-- **Values with the same data equal each other**, if the first equals itself. -/
theorem jsonEqual (h : v.SameData w) (hv : v.jsonEqual v = true) : v.jsonEqual w = true := by
  rwa [← h.jsonEqual_right]

end SameData

end Value

/-! ## Repeated items -/

namespace Conformance

open Validation

/-- Items with the same data are repeated at the same place. -/
lemma firstRepeated_sameData {earlier earlier' vs ws : List Value} {index : Nat}
    (hearlier : List.Forall₂ Value.SameData earlier earlier')
    (hitems : List.Forall₂ Value.SameData vs ws) :
    firstRepeated earlier index vs = firstRepeated earlier' index ws := by
  induction hitems generalizing earlier earlier' index with
  | nil => rfl
  | @cons v w vs ws hvw _ ih =>
    rw [firstRepeated, firstRepeated, hvw.any_jsonEqual hearlier,
      ih (List.rel_append hearlier (.cons hvw .nil))]

/-- Items with the same data are distinct alike. -/
lemma areDistinct_sameData {vs ws : List Value} (h : List.Forall₂ Value.SameData vs ws) :
    areDistinct vs = areDistinct ws := by
  have hnone : ∀ items : List Value, firstRepeated [] 0 items = none ↔ areDistinct items = true :=
    fun items => by simp [firstRepeated_eq_none]
  rw [Bool.eq_iff_iff, ← hnone, ← hnone, firstRepeated_sameData .nil h]

end Conformance

end DataSchema
