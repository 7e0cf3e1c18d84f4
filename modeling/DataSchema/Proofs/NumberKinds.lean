import DataSchema.Proofs.Agreement
import DataSchema.Proofs.Alike
import DataSchema.Proofs.Multiples

set_option autoImplicit false

/-!
# Whole numbers written as doubles

Two values have the same numbers if they differ in nothing but that some whole numbers of the one,
small enough to be exactly a double, are doubles in the other: as items, properties, fields or keys,
at any depth. Equality sees none of that, so the same values are equal to both, the same names are
found in both, and they are kept apart by the same values.

## Main definitions

* `DataSchema.Value.SameNumbers` — values that differ in the kind of some whole numbers alone.

## Main results

* `DataSchema.Value.SameNumbers.equal_left`, `DataSchema.Value.SameNumbers.equal_right` — such
  values are plainly equal to the same values.
* `DataSchema.Value.SameNumbers.jsonEqual_left`, `DataSchema.Value.SameNumbers.jsonEqual_right` —
  and they are JSON-equal to the same values.
* `DataSchema.Value.SameNumbers.objectView?`, `DataSchema.Value.SameNumbers.items?` — their entries
  and their items correspond.
* `DataSchema.Number.isMultiple_ofInt` — by a divisor that is exactly a double, a whole number and
  its double are multiples alike.
-/

namespace DataSchema

/-! ## Lists side by side -/

section

variable {α β : Type} {R : α → β → Prop} {xs : List α} {ys : List β} {p : α → Bool} {q : β → Bool}

/-- Tests that agree on related things agree on all of them. -/
lemma forall₂_all_eq (h : List.Forall₂ R xs ys) (hpq : ∀ x y, R x y → p x = q y) :
    xs.all p = ys.all q := by
  induction h with
  | nil => rfl
  | cons hfirst _ ih => rw [List.all_cons, List.all_cons, hpq _ _ hfirst, ih]

/-- Tests that agree on related things agree on any of them. -/
lemma forall₂_any_eq (h : List.Forall₂ R xs ys) (hpq : ∀ x y, R x y → p x = q y) :
    xs.any p = ys.any q := by
  induction h with
  | nil => rfl
  | cons hfirst _ ih => rw [List.any_cons, List.any_cons, hpq _ _ hfirst, ih]

/-- Tests that agree on related things find related things first. -/
lemma forall₂_find? (h : List.Forall₂ R xs ys) (hpq : ∀ x y, R x y → p x = q y) :
    Option.Rel R (xs.find? p) (ys.find? q) := by
  induction h with
  | nil => exact .none
  | @cons x y _ _ hfirst _ ih =>
    rw [List.find?_cons, List.find?_cons, hpq _ _ hfirst]
    cases q y with
    | true => exact .some hfirst
    | false => exact ih

end

/-- A comparison does not tell two things apart, on either side. -/
def SeenAlike {α : Type} (e : α → α → Bool) (a b : α) : Prop :=
  (∀ c, e a c = e b c) ∧ ∀ c, e c a = e c b

namespace SeenAlike

variable {α β : Type} {e : α → α → Bool} {f : β → β → Bool} {a b : α × β} {xs ys : List α}

/-- A comparison does not tell a thing from itself. -/
lemma refl (e : α → α → Bool) (a : α) : SeenAlike e a a := ⟨fun _ => rfl, fun _ => rfl⟩

/-- A comparison does not tell a thing from what is the same. -/
lemma of_eq {a b : α} (h : a = b) : SeenAlike e a b := h ▸ refl e a

/-- Pairs are not told apart if their parts are not. -/
lemma pair (h : SeenAlike e a.1 b.1) (h' : SeenAlike f a.2 b.2) :
    SeenAlike (fun p q => e p.1 q.1 && f p.2 q.2) a b :=
  ⟨fun _ => congrArg₂ (· && ·) (h.1 _) (h'.1 _), fun _ => congrArg₂ (· && ·) (h.2 _) (h'.2 _)⟩

/-- Lists that are compared one by one are not told apart if their things are not. -/
lemma isEqv (h : List.Forall₂ (SeenAlike e) xs ys) :
    SeenAlike (fun as bs => List.isEqv as bs e) xs ys := by
  refine ⟨fun zs => ?_, fun zs => ?_⟩
  · induction h generalizing zs with
    | nil => rfl
    | cons hfirst _ ih =>
      cases zs with
      | nil => rfl
      | cons z zs => simp only [List.isEqv, hfirst.1, ih zs]
  · induction h generalizing zs with
    | nil => rfl
    | cons hfirst _ ih =>
      cases zs with
      | nil => rfl
      | cons z zs => simp only [List.isEqv, hfirst.2, ih zs]

/-- Lists of which each thing is looked for in the other are not told apart if their things are
not. -/
lemma allAny (h : List.Forall₂ (SeenAlike e) xs ys) :
    SeenAlike (fun as bs => as.all fun a => bs.any (e a)) xs ys :=
  ⟨fun zs => forall₂_all_eq h fun _ _ hxy => congrArg zs.any (funext hxy.1),
    fun zs => congrArg zs.all (funext fun z => forall₂_any_eq h fun _ _ hxy => hxy.2 z)⟩

end SeenAlike

namespace Value

/-! ## Values with the same numbers -/

/-- Values have the same numbers if they are the same, but for certain whole numbers in place of
which there are doubles, at any depth. -/
inductive SameNumbers (N : Int → Prop) : Value → Value → Prop
  /-- A value has the same numbers as itself. -/
  | same (v : Value) : SameNumbers N v v
  /-- A whole number of at most 53 binary digits is the same number as its double. -/
  | number {n : Int} : n.natAbs ≤ 2 ^ 53 → N n → SameNumbers N (int n) (float (.ofInt n))
  /-- Lists have the same numbers item by item. -/
  | list {vs ws : List Value} : vs.length = ws.length →
    (∀ p ∈ vs.zip ws, SameNumbers N p.1 p.2) → SameNumbers N (list vs) (list ws)
  /-- Tuples have the same numbers item by item. -/
  | tuple {vs ws : List Value} : vs.length = ws.length →
    (∀ p ∈ vs.zip ws, SameNumbers N p.1 p.2) → SameNumbers N (tuple vs) (tuple ws)
  /-- Mappings have the same numbers key by key and value by value. -/
  | mapping {es fs : Entries} : es.length = fs.length →
    (∀ p ∈ es.zip fs, SameNumbers N p.1.1 p.2.1) → (∀ p ∈ es.zip fs, SameNumbers N p.1.2 p.2.2) →
    SameNumbers N (mapping es) (mapping fs)
  /-- Records of one type have the same numbers field by field. -/
  | record {type : String} {as bs : List (String × Value)} : as.length = bs.length →
    (∀ p ∈ as.zip bs, p.1.1 = p.2.1) → (∀ p ∈ as.zip bs, SameNumbers N p.1.2 p.2.2) →
    SameNumbers N (record type as) (record type bs)
  /-- Records that take any fields have the same numbers field by field. -/
  | openRecord {type : String} {as bs : List (String × Value)} : as.length = bs.length →
    (∀ p ∈ as.zip bs, p.1.1 = p.2.1) → (∀ p ∈ as.zip bs, SameNumbers N p.1.2 p.2.2) →
    SameNumbers N (openRecord type as) (openRecord type bs)

/-- Entries have the same numbers if their keys and their values do. -/
def SameEntries (N : Int → Prop) (e f : Value × Value) : Prop :=
  e.1.SameNumbers N f.1 ∧ e.2.SameNumbers N f.2

/-! ## Plain equality -/

/-- Items are equal one by one. -/
lemma equalItems_eq (as bs : List Value) : equalItems as bs = as.isEqv bs equal := by
  induction as generalizing bs with
  | nil => cases bs <;> rfl
  | cons a as ih =>
    cases bs with
    | nil => rfl
    | cons b bs => rw [equalItems, List.isEqv, ih]

/-- Fields are equal one by one, and have one name. -/
lemma equalFields_eq (as bs : List (String × Value)) :
    equalFields as bs = as.isEqv bs fun a b => a.1 == b.1 && equal a.2 b.2 := by
  induction as generalizing bs with
  | nil => cases bs <;> rfl
  | cons a as ih =>
    cases bs with
    | nil => rfl
    | cons b bs => rw [equalFields, List.isEqv, ih]

/-- Every entry has an equal one. -/
lemma equalEntries_eq (as bs : Entries) :
    equalEntries as bs = as.all fun a => bs.any fun b => equal a.1 b.1 && equal a.2 b.2 := by
  induction as with
  | nil => rfl
  | cons a as ih => rw [equalEntries, List.all_cons, ih]

/-- Every field has an equal one of its name. -/
lemma equalAttributes_eq (as bs : List (String × Value)) :
    equalAttributes as bs = as.all fun a => bs.any fun b => a.1 == b.1 && equal a.2 b.2 := by
  induction as with
  | nil => rfl
  | cons a as ih => rw [equalAttributes, List.all_cons, ih]

/-- The items of arrays are JSON-equal one by one. -/
lemma jsonEqualItems_eq (as bs : List Value) : jsonEqualItems as bs = as.isEqv bs jsonEqual := by
  induction as generalizing bs with
  | nil => cases bs <;> rfl
  | cons a as ih =>
    cases bs with
    | nil => rfl
    | cons b bs => rw [jsonEqualItems, List.isEqv, ih]

/-- A number is equal to what has its place, and is what it is equal to. -/
lemma equal_of_number {v : Value} {a : Number} (h : v.number? = some a) (u : Value) :
    v.equal u = equalsNumber a u ∧ u.equal v = u.operand?.any (·.equal a) := by
  cases v with
  | int n =>
    obtain rfl := Option.some.inj h
    exact ⟨rfl, by cases u <;> rfl⟩
  | float x =>
    obtain rfl := Option.some.inj h
    exact ⟨rfl, by cases u <;> rfl⟩
  | _ => cases h

/-- Records are JSON-equal to what they are plainly equal to. -/
lemma jsonEqual_record (type : String) (fields : List (String × Value)) (u : Value) :
    (record type fields).jsonEqual u = (record type fields).equal u ∧
      u.jsonEqual (record type fields) = u.equal (record type fields) := by
  cases u <;> simp [jsonEqual, equal, equalsNumber, operand?, number?]

/-- Records that take any fields are JSON-equal to what they are plainly equal to. -/
lemma jsonEqual_openRecord (type : String) (fields : List (String × Value)) (u : Value) :
    (openRecord type fields).jsonEqual u = (openRecord type fields).equal u ∧
      u.jsonEqual (openRecord type fields) = u.equal (openRecord type fields) := by
  cases u <;> simp [jsonEqual, equal, equalsNumber, operand?, number?]

/-- Arrays of any kind are not told apart if their items are not. -/
lemma seenAlike_of_items {v w : Value} {as bs : List Value} (hv : v.items? = some as)
    (hw : w.items? = some bs) (h : List.Forall₂ (SeenAlike jsonEqual) as bs) :
    SeenAlike jsonEqual v w := by
  have hitems := SeenAlike.isEqv h
  refine ⟨fun u => ?_, fun u => ?_⟩
  · rw [jsonEqual_of_items hv, jsonEqual_of_items hw]
    simp only [jsonEqualItems_eq, hitems.1]
  · rw [jsonEqual_items hv, jsonEqual_items hw]
    simp only [jsonEqualItems_eq, hitems.2]

/-- Mappings are not told apart if their keys are not by plain equality and their values are not. -/
lemma seenAlike_of_entries {es fs : Entries}
    (h : List.Forall₂ (fun e f => SeenAlike equal e.1 f.1 ∧ SeenAlike jsonEqual e.2 f.2) es fs) :
    SeenAlike jsonEqual (mapping es) (mapping fs) := by
  refine ⟨fun u => ?_, fun u => ?_⟩ <;> cases u <;> try rfl
  · rw [jsonEqual, jsonEqual, jsonEqualEntries_eq, jsonEqualEntries_eq, h.length_eq]
    refine congrArg _ (forall₂_all_eq h fun e f hef => ?_)
    simp only [hef.1.1, hef.2.1]
  · rename_i us
    rw [jsonEqual, jsonEqual, jsonEqualEntries_eq, jsonEqualEntries_eq, h.length_eq]
    refine congrArg _ (congrArg us.all (funext fun u => ?_))
    -- a key is looked up in both mappings, and finds entries at one place
    have hfound := forall₂_find? (p := fun e => equal u.1 e.1) (q := fun e => equal u.1 e.1)
      h fun _ _ hef => hef.1.2 u.1
    generalize List.find? _ es = e?, List.find? _ fs = f? at hfound ⊢
    cases hfound with
    | none => rfl
    | some hef => exact hef.2.2 u.2

namespace SameNumbers

variable {N : Int → Prop} {v w : Value}

/-- Values of which each is related to the one at its place are related one by one. -/
lemma forall₂_items {R : Value → Value → Prop} {vs ws : List Value} (hlength : vs.length = ws.length)
    (h : ∀ p ∈ vs.zip ws, R p.1 p.2) : List.Forall₂ R vs ws :=
  List.forall₂_iff_zip.2 ⟨hlength, fun hp => h _ hp⟩

/-- Pairs whose parts are related to those at their place are related one by one. -/
lemma forall₂_pairs {κ : Type} {K : κ → κ → Prop} {R : Value → Value → Prop}
    {es fs : List (κ × Value)} (hlength : es.length = fs.length)
    (hkey : ∀ p ∈ es.zip fs, K p.1.1 p.2.1) (h : ∀ p ∈ es.zip fs, R p.1.2 p.2.2) :
    List.Forall₂ (fun e f => K e.1 f.1 ∧ R e.2 f.2) es fs :=
  List.forall₂_iff_zip.2 ⟨hlength, fun hp => ⟨hkey _ hp, h _ hp⟩⟩

/-- A whole number of at most 53 digits and its double have one place. -/
lemma extent?_ofInt {n : Int} (h : n.natAbs ≤ 2 ^ 53) :
    (Number.int n).extent? = (Number.float (.ofInt n)).extent? := by
  rw [Binary64.ofInt_of_representable (Binary64.representable_mul_one h), Number.extent?,
    Number.extent?]
  by_cases hneg : n < 0
  · have habs : n = -(n.natAbs : Int) := by omega
    rw [decide_eq_true hneg, if_pos rfl, Int.natCast_mul, ← Int.neg_mul, ← habs]
  · have habs : n = (n.natAbs : Int) := by omega
    rw [decide_eq_false hneg, if_neg Bool.false_ne_true, Int.natCast_mul, ← habs]

/-- **Plain equality does not tell values with the same numbers apart.**

**Proof sketch.** Induction on the values. A number is compared by its place; arrays, mappings and
records are compared part by part, and their parts are not told apart. -/
lemma seenAlike_equal (h : v.SameNumbers N w) : SeenAlike equal v w := by
  induction h with
  | same v => exact .refl _ v
  | number hn _ =>
    refine ⟨fun u => ?_, fun u => ?_⟩
    · rw [(equal_of_number rfl u).1, (equal_of_number rfl u).1]
      exact equalsNumber_congr (extent?_ofInt hn) u
    · rw [(equal_of_number rfl u).2, (equal_of_number rfl u).2]
      simp only [Number.equal, extent?_ofInt hn]
  | list hlength _ ih =>
    have hitems := SeenAlike.isEqv (forall₂_items hlength ih)
    refine ⟨fun u => ?_, fun u => ?_⟩ <;> cases u <;> try rfl
    · simpa only [equal, equalItems_eq] using hitems.1 _
    · simpa only [equal, equalItems_eq] using hitems.2 _
  | tuple hlength _ ih =>
    have hitems := SeenAlike.isEqv (forall₂_items hlength ih)
    refine ⟨fun u => ?_, fun u => ?_⟩ <;> cases u <;> try rfl
    · simpa only [equal, equalItems_eq] using hitems.1 _
    · simpa only [equal, equalItems_eq] using hitems.2 _
  | mapping hlength _ _ ihkey ihvalue =>
    have hentries := SeenAlike.allAny <| (forall₂_pairs hlength ihkey ihvalue).imp
      fun _ _ hef => hef.1.pair hef.2
    refine ⟨fun u => ?_, fun u => ?_⟩ <;> cases u <;> try rfl
    · simpa only [equal, equalEntries_eq, hlength] using congrArg _ (hentries.1 _)
    · simpa only [equal, equalEntries_eq, hlength] using congrArg _ (hentries.2 _)
  | record hlength hname _ ih =>
    have hfields := SeenAlike.isEqv <| (forall₂_pairs (K := Eq) hlength hname ih).imp
      fun _ _ hab => (SeenAlike.of_eq (e := (· == ·)) hab.1).pair hab.2
    refine ⟨fun u => ?_, fun u => ?_⟩ <;> cases u <;> try rfl
    · simpa only [equal, equalFields_eq] using congrArg _ (hfields.1 _)
    · simpa only [equal, equalFields_eq] using congrArg _ (hfields.2 _)
  | openRecord hlength hname _ ih =>
    have hfields := SeenAlike.allAny <| (forall₂_pairs (K := Eq) hlength hname ih).imp
      fun _ _ hab => (SeenAlike.of_eq (e := (· == ·)) hab.1).pair hab.2
    refine ⟨fun u => ?_, fun u => ?_⟩ <;> cases u <;> try rfl
    · simpa only [equal, equalAttributes_eq, hlength] using congrArg _ (hfields.1 _)
    · simpa only [equal, equalAttributes_eq, hlength] using congrArg _ (hfields.2 _)

/-! ## JSON equality -/

/-- **JSON equality does not tell values with the same numbers apart** either: a truth value is no
number, arrays of both kinds are compared one by one, and records plainly.

**Proof sketch.** Induction on the values, for their parts. What is compared plainly, which is keys
and whole records, is not told apart by plain equality. -/
lemma seenAlike_jsonEqual (h : v.SameNumbers N w) : SeenAlike jsonEqual v w := by
  induction h with
  | same v => exact .refl _ v
  | number hn _ =>
    refine ⟨fun u => ?_, fun u => ?_⟩
    · rw [jsonEqual_of_number rfl, jsonEqual_of_number rfl]
      split
      · rfl
      · exact equalsNumber_congr (extent?_ofInt hn) _
    · rw [jsonEqual_number rfl, jsonEqual_number rfl]
      simp only [Number.equal, extent?_ofInt hn]
  | list hlength _ ih => exact seenAlike_of_items rfl rfl (forall₂_items hlength ih)
  | tuple hlength _ ih => exact seenAlike_of_items rfl rfl (forall₂_items hlength ih)
  | mapping hlength hkeys _ _ ih =>
    exact seenAlike_of_entries
      (forall₂_pairs hlength (fun p hp => (hkeys p hp).seenAlike_equal) ih)
  | @record type as bs hlength hname hall _ =>
    have hwhole : SeenAlike equal (Value.record type as) (Value.record type bs) :=
      (SameNumbers.record hlength hname hall).seenAlike_equal
    refine ⟨fun u => ?_, fun u => ?_⟩
    · rw [(jsonEqual_record _ _ u).1, (jsonEqual_record _ _ u).1, hwhole.1]
    · rw [(jsonEqual_record _ _ u).2, (jsonEqual_record _ _ u).2, hwhole.2]
  | @openRecord type as bs hlength hname hall _ =>
    have hwhole : SeenAlike equal (Value.openRecord type as) (Value.openRecord type bs) :=
      (SameNumbers.openRecord hlength hname hall).seenAlike_equal
    refine ⟨fun u => ?_, fun u => ?_⟩
    · rw [(jsonEqual_openRecord _ _ u).1, (jsonEqual_openRecord _ _ u).1, hwhole.1]
    · rw [(jsonEqual_openRecord _ _ u).2, (jsonEqual_openRecord _ _ u).2, hwhole.2]

/-! ## Keys, entries and items -/

/-- A key is the same as the same keys. -/
lemma sameKey_eq (h : v.SameNumbers N w) (k : Value) : v.sameKey k = w.sameKey k := by
  cases h with
  | same v => rfl
  | number hn hN =>
    have hequal := (SameNumbers.number hn hN).seenAlike_equal.1 k
    rw [Binary64.ofInt_of_representable (Binary64.representable_mul_one hn)] at hequal ⊢
    exact hequal
  | list hlength hall => exact (SameNumbers.list hlength hall).seenAlike_equal.1 k
  | tuple hlength hall => exact (SameNumbers.tuple hlength hall).seenAlike_equal.1 k
  | mapping hlength hkeys hall => exact (SameNumbers.mapping hlength hkeys hall).seenAlike_equal.1 k
  | record hlength hname hall => exact (SameNumbers.record hlength hname hall).seenAlike_equal.1 k
  | openRecord hlength hname hall =>
    exact (SameNumbers.openRecord hlength hname hall).seenAlike_equal.1 k

/-- Under one key there is nothing in both, or there are values with the same numbers. -/
lemma get?_rel {es fs : Entries} (h : List.Forall₂ (SameEntries N) es fs) (k : Value) :
    Option.Rel (SameNumbers N) (es.get? k) (fs.get? k) := by
  have hfound := forall₂_find? (p := fun e => e.1.sameKey k) (q := fun e => e.1.sameKey k) h
    fun _ _ hef => hef.1.sameKey_eq k
  unfold Entries.get?
  match List.find? _ _, List.find? _ _, hfound with
  | _, _, .none => exact .none
  | _, _, .some hef => exact .some hef.2

/-- The same keys are present. -/
lemma has_eq {es fs : Entries} (h : List.Forall₂ (SameEntries N) es fs) (k : Value) :
    es.has k = fs.has k := by
  unfold Entries.has
  match es.get? k, fs.get? k, get?_rel h k with
  | _, _, .none => rfl
  | _, _, .some _ => rfl

/-- The items of arrays have the same numbers one by one. -/
lemma items? (h : v.SameNumbers N w) :
    Option.Rel (List.Forall₂ (SameNumbers N)) v.items? w.items? := by
  cases h with
  | same v =>
    cases v.items? with
    | none => exact .none
    | some items => exact .some (List.forall₂_same.2 fun v _ => .same v)
  | list hlength hall => exact .some (forall₂_items hlength hall)
  | tuple hlength hall => exact .some (forall₂_items hlength hall)
  | _ => exact .none

/-- Values with the same numbers are null alike. -/
lemma isNull_eq (h : v.SameNumbers N w) : v.isNull = w.isNull := by
  cases h <;> rfl

/-- The entries of objects have the same numbers one by one. A field is left out of both or of
neither. -/
lemma objectView? (h : v.SameNumbers N w) (required : List Value) :
    Option.Rel (List.Forall₂ (SameEntries N)) (v.objectView? required) (w.objectView? required) := by
  cases h with
  | same v =>
    cases v.objectView? required with
    | none => exact .none
    | some es => exact .some (List.forall₂_same.2 fun e _ => ⟨.same e.1, .same e.2⟩)
  | mapping hlength hkeys hall => exact .some (forall₂_pairs hlength hkeys hall)
  | @record type as bs hlength hname hall =>
    have hfields := forall₂_pairs (K := Eq) hlength hname hall
    refine .some (List.forall₂_map_left_iff.2 (List.forall₂_map_right_iff.2 ?_))
    have hkept := List.rel_filter (p := fun f => !f.2.isNull || required.any (·.equal (.str f.1)))
      (q := fun f => !f.2.isNull || required.any (·.equal (.str f.1)))
      (fun a b hab => by dsimp only; rw [hab.1, hab.2.isNull_eq]) hfields
    exact hkept.imp fun a b hab => ⟨hab.1 ▸ .same _, hab.2⟩
  | _ => exact .none

end SameNumbers

end Value

/-! ## Multiples -/

namespace Number

/-- **A whole number and its double have one quotient** by what is exactly a double: the first is
rounded from the numbers, the second from their doubles, which are the same numbers. -/
lemma quotient_ofInt {n : Int} (hn : n.natAbs ≤ 2 ^ 53) {d : Number}
    (hd : ∀ m, d = .int m → Representable (m.natAbs * Binary64.one)) :
    Agree Eq ((int n).quotient d) ((float (.ofInt n)).quotient d) := by
  have hdouble := Binary64.ofInt_of_representable (Binary64.representable_mul_one hn)
  rw [hdouble]
  cases d with
  | float y =>
    have hsame : (int n).toBinary64 = .ok (Binary64.finite (decide (n < 0)) _
        (Binary64.representable_mul_one hn)) := by
      rw [toBinary64_int, hdouble]
      rfl
    simp only [quotient, hsame]
    exact .same _
  | int m =>
    have hm := Binary64.ofInt_of_representable (hd m rfl)
    have hright : (int m).toBinary64 = .ok (Binary64.finite (decide (m < 0)) _ (hd m rfl)) := by
      rw [toBinary64_int, hm]
      rfl
    intro a b ha hb
    rw [quotient_int] at ha
    simp only [quotient, hright] at hb
    obtain rfl := Except.ok.inj hb
    rcases Nat.eq_zero_or_pos m.natAbs with hzero | hpos
    · rw [hzero] at ha
      cases ha
    · rw [← eq_of_unlessTooLarge ha]
      exact (Binary64.div_mul_one _ _ hpos _ _).symm

/-- **A whole number and its double are multiples alike** of what is exactly a double. -/
lemma isMultiple_ofInt {n : Int} (hn : n.natAbs ≤ 2 ^ 53) {d : Number}
    (hd : ∀ m, d = .int m → Representable (m.natAbs * Binary64.one)) :
    Agree Eq ((int n).isMultiple d) ((float (.ofInt n)).isMultiple d) := by
  refine (quotient_ofInt hn hd).bind ?_
  rintro q _ rfl
  exact .same _

end Number

end DataSchema
