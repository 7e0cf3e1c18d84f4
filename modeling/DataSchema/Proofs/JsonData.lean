import Mathlib.Algebra.Order.Field.Rat
import Mathlib.Order.WithBot
import DataSchema.Proofs.ConformingData
import DataSchema.Proofs.Locations
import DataSchema.Proofs.NumberKinds

set_option autoImplicit false

/-!
# The data of JSON values

What a JSON value says, whatever it is made of: null, truth values, exact numbers, texts, sequences
and finite maps from names. Numbers of both kinds are numbers on the same line, arrays of both kinds
are sequences, and the entries of a mapping are in no order. Every plain value denotes one datum,
and two such values are JSON-equal exactly if they denote the same.

## Main definitions

* `DataSchema.Number.exactPlace?` — the place of a number on the rational line and its ends.
* `DataSchema.JsonData` — data.
* `DataSchema.Value.Denotes` — the data that values denote.

## Main results

* `DataSchema.Number.equal_iff` — numbers are equal if they are exactly the same.
* `DataSchema.Value.jsonEqual_mapping_iff` — mappings are equal if they have the same names, and
  equal values under each.
* `DataSchema.Value.Denotes.jsonEqual_iff` — JSON equality is equality of what is denoted.
* `DataSchema.Value.IsPlain.exists_denotes` — every plain value denotes something.
* `DataSchema.Value.IsPlain.jsonEqual_at` — equal values are equal at every path.
* `DataSchema.jsonEqual_iff_sameDatum` — JSON equality of plain values.
-/

namespace DataSchema

/-! ## Exact numbers -/

namespace Number

/-- The place of a number on the rational line and its two ends; not-a-number has none. -/
def exactPlace? : Number → Option (WithBot (WithTop ℚ))
  | int n => some ((n : ℚ) : WithTop ℚ)
  | float .nan => none
  | float (.infinity negative) => some (if negative then ⊥ else ⊤)
  | float (.finite negative units _) =>
    some (((if negative then -(units : ℚ) else units) / 2 ^ 1074 : ℚ) : WithTop ℚ)

/-- The place on the rational line of a place on the line of units. -/
def exactOf : Extent → WithBot (WithTop ℚ)
  | .bottom => ⊥
  | .at units => ((units / 2 ^ 1074 : ℚ) : WithTop ℚ)
  | .top => ⊤

/-- Places on the line of units are different places on the rational line. -/
lemma exactOf_injective : Function.Injective exactOf := by
  intro x y h
  cases x <;> cases y <;> simp_all [exactOf]

/-- A whole number is as many times the units of one. -/
lemma exactOf_int (n : Int) : exactOf (.at (n * Binary64.one)) = ((n : ℚ) : WithTop ℚ) := by
  have hone : ((Binary64.one : Int) : ℚ) = 2 ^ 1074 := by
    rw [Binary64.one_eq, Int.cast_natCast, Nat.cast_pow, Nat.cast_ofNat]
  rw [exactOf, Int.cast_mul, hone, mul_div_cancel_right₀ _ (pow_ne_zero _ two_ne_zero)]

/-- The exact number is the place in units. -/
lemma exactPlace?_eq (a : Number) : a.exactPlace? = a.extent?.map exactOf := by
  cases a with
  | int n => exact congrArg some (exactOf_int n).symm
  | float x =>
    cases x with
    | nan => rfl
    | infinity negative => cases negative <;> rfl
    | finite negative units _ => cases negative <;> simp [exactPlace?, extent?, exactOf]

/-- **Numbers are equal** if they are exactly the same. -/
lemma equal_iff {a b : Number} {x y : WithBot (WithTop ℚ)} (ha : a.exactPlace? = some x)
    (hb : b.exactPlace? = some y) : a.equal b = true ↔ x = y := by
  rw [exactPlace?_eq] at ha hb
  obtain ⟨e, he, rfl⟩ := Option.map_eq_some_iff.1 ha
  obtain ⟨f, hf, rfl⟩ := Option.map_eq_some_iff.1 hb
  rw [equal, he, hf, exactOf_injective.eq_iff]
  exact beq_iff_eq

end Number

/-! ## Data -/

/-- What a JSON value says. -/
inductive JsonData
  /-- Nothing. -/
  | null
  /-- A truth value. -/
  | bool (b : Bool)
  /-- An exact number. -/
  | number (x : WithBot (WithTop ℚ))
  /-- A text. -/
  | text (s : String)
  /-- A sequence of data. -/
  | sequence (items : List JsonData)
  /-- A finite map from names to data. -/
  | object (names : Finset String) (property : {name // name ∈ names} → JsonData)
  deriving Inhabited

/-- Maps are the same if they have the same names and the same data under each. -/
lemma JsonData.object_eq_iff {names names' : Finset String}
    {property : {name // name ∈ names} → JsonData}
    {property' : {name // name ∈ names'} → JsonData} :
    object names property = object names' property' ↔ names = names' ∧
      ∀ name (h : name ∈ names) (h' : name ∈ names'),
        property ⟨name, h⟩ = property' ⟨name, h'⟩ := by
  constructor
  · intro h
    obtain ⟨rfl, hproperty⟩ := JsonData.object.inj h
    exact ⟨rfl, fun name h h' => by rw [eq_of_heq hproperty]⟩
  · rintro ⟨rfl, h⟩
    exact congrArg _ (funext fun name => h name.1 name.2 name.2)

namespace Value

/-- A value denotes a datum: numbers of both kinds an exact number, arrays of both kinds the
sequence of what their items denote, and a mapping from distinct names the map from them to what is
denoted under each. -/
inductive Denotes : Value → JsonData → Prop
  | null : Denotes null .null
  | bool (b : Bool) : Denotes (bool b) (.bool b)
  | number {v : Value} {n : Number} {x : WithBot (WithTop ℚ)} :
    v.number? = some n → n.exactPlace? = some x → Denotes v (.number x)
  | str (s : String) : Denotes (str s) (.text s)
  | array {v : Value} {items : List Value} {data : List JsonData} :
    v.items? = some items → items.length = data.length →
    (∀ p ∈ items.zip data, Denotes p.1 p.2) → Denotes v (.sequence data)
  | mapping {es : Entries} {names : Finset String} {property : {name // name ∈ names} → JsonData} :
    es.Named → (∀ name, name ∈ names ↔ (es.get? (.str name)).isSome = true) →
    (∀ name v (h : name ∈ names), es.get? (.str name) = some v → Denotes v (property ⟨name, h⟩)) →
    Denotes (mapping es) (.object names property)

end Value

/-! ## Mappings name by name -/

namespace Entries.Named

variable {es fs : Entries}

/-- Entries that have all the names of others, and are no more, have no other names. -/
lemma isSome_eq_of_subset (he : es.Named) (hlength : es.length = fs.length)
    (h : ∀ name, (es.get? (.str name)).isSome = true → (fs.get? (.str name)).isSome = true)
    (name : String) : (es.get? (.str name)).isSome = (fs.get? (.str name)).isSome := by
  have hsubset : es.map Prod.fst ⊆ fs.map Prod.fst := by
    intro k hk
    obtain ⟨e, hmem, rfl⟩ := List.mem_map.1 hk
    obtain ⟨text, htext⟩ := he.text e hmem
    rw [htext] at hk ⊢
    exact (mem_keys text).2 (h text ((mem_keys text).1 hk))
  have hperm : (es.map Prod.fst).Perm (fs.map Prod.fst) :=
    (List.subperm_of_subset he.nodup hsubset).perm_of_length_le (by simp [hlength])
  rw [Bool.eq_iff_iff, ← mem_keys, ← mem_keys]
  exact hperm.mem_iff

/-- The names of entries are finitely many. -/
lemma exists_names (es : Entries) :
    ∃ names : Finset String, ∀ name, name ∈ names ↔ (es.get? (.str name)).isSome = true := by
  refine ⟨(es.filterMap fun e => e.1.str?).toFinset, fun name => ?_⟩
  have hstr : ∀ k : Value, k.str? = some name ↔ k = .str name := by
    intro k
    cases k <;> simp [Value.str?]
  rw [List.mem_toFinset, List.mem_filterMap, ← mem_keys, List.mem_map]
  simp only [hstr]

end Entries.Named

namespace Value

/-- **Mappings are equal** if they have the same names, and equal values under each. -/
lemma jsonEqual_mapping_iff {es fs : Entries} (he : es.Named) (hf : fs.Named) :
    (mapping es).jsonEqual (mapping fs) = true ↔
      (∀ name, (es.get? (.str name)).isSome = (fs.get? (.str name)).isSome) ∧
        ∀ name v w, es.get? (.str name) = some v → fs.get? (.str name) = some w →
          v.jsonEqual w = true := by
  rw [jsonEqual, jsonEqualEntries_named hf, Bool.and_eq_true, beq_iff_eq, List.all_eq_true]
  constructor
  · rintro ⟨hlength, hall⟩
    have hfound : ∀ name v, es.get? (.str name) = some v →
        ∃ w, fs.get? (.str name) = some w ∧ v.jsonEqual w = true := fun name v hv =>
      (Option.any_eq_true ..).1 (hall _ (Entries.mem_of_get? hv))
    refine ⟨he.isSome_eq_of_subset hlength fun name hname => ?_, fun name v w hv hw => ?_⟩
    · obtain ⟨v, hv⟩ := Option.isSome_iff_exists.1 hname
      obtain ⟨w, hw, -⟩ := hfound name v hv
      rw [hw]
      rfl
    · obtain ⟨w', hw', heq⟩ := hfound name v hv
      rwa [Option.some.inj (hw.symm.trans hw')]
  · rintro ⟨hnames, hvalues⟩
    refine ⟨by simpa using (he.keys_perm hf hnames).length_eq, fun e hmem => ?_⟩
    obtain ⟨name, hname⟩ := he.text e hmem
    have hv := he.get?_of_mem hmem
    rw [hname] at hv ⊢
    obtain ⟨w, hw⟩ := Option.isSome_iff_exists.1 ((hnames name).symm.trans (by rw [hv]; rfl))
    rw [hw]
    exact hvalues name e.2 w hv hw

/-! ## Equality of what is denoted -/

/-- A number has no items. -/
lemma items?_of_number {v : Value} {n : Number} (h : v.number? = some n) : v.items? = none := by
  cases v <;> first | rfl | cases h

namespace Denotes

/-- Arrays are equal if they denote the same sequence, as soon as their items are equal if they
denote the same. -/
lemma jsonEqualItems_iff {vs ws : List Value} {data data' : List JsonData}
    (hv : vs.length = data.length) (hw : ws.length = data'.length)
    (h : ∀ p ∈ vs.zip data, ∀ q ∈ ws.zip data', p.1.jsonEqual q.1 = true ↔ p.2 = q.2) :
    jsonEqualItems vs ws = true ↔ data = data' := by
  induction vs generalizing ws data data' with
  | nil =>
    obtain rfl := List.eq_nil_of_length_eq_zero hv.symm
    cases ws with
    | nil =>
      obtain rfl := List.eq_nil_of_length_eq_zero hw.symm
      exact ⟨fun _ => rfl, fun _ => rfl⟩
    | cons w ws =>
      obtain ⟨d, ds, rfl⟩ := List.exists_cons_of_length_eq_add_one hw.symm
      simp [jsonEqualItems]
  | cons v vs ih =>
    obtain ⟨d, ds, rfl⟩ := List.exists_cons_of_length_eq_add_one hv.symm
    cases ws with
    | nil =>
      obtain rfl := List.eq_nil_of_length_eq_zero hw.symm
      simp [jsonEqualItems]
    | cons w ws =>
      obtain ⟨d', ds', rfl⟩ := List.exists_cons_of_length_eq_add_one hw.symm
      have hfirst : v.jsonEqual w = true ↔ d = d' :=
        h (v, d) List.mem_cons_self (w, d') List.mem_cons_self
      have hrest : jsonEqualItems vs ws = true ↔ ds = ds' :=
        ih (Nat.succ.inj hv) (Nat.succ.inj hw) fun p hp q hq =>
          h p (List.mem_cons_of_mem _ hp) q (List.mem_cons_of_mem _ hq)
      rw [jsonEqualItems, Bool.and_eq_true, hfirst, hrest, List.cons_eq_cons]

/-- **JSON equality is equality of what is denoted.**

**Proof sketch.** Induction on what the first value denotes, and the cases of the second. Values of
different sorts are unequal, and so are data of different sorts. Two numbers are compared by their
exact places, two arrays item by item, two mappings name by name. -/
lemma jsonEqual_iff {a b : Value} {x y : JsonData} (ha : a.Denotes x) (hb : b.Denotes y) :
    a.jsonEqual b = true ↔ x = y := by
  induction ha generalizing b y with
  | null =>
    cases hb with
    | number hb _ => simp [jsonEqual_number hb, number?]
    | array hb _ _ => simp [jsonEqual_items hb, items?]
    | _ => simp [jsonEqual, equal]
  | bool truth =>
    cases hb with
    | number hb _ => simp [jsonEqual_number hb, number?]
    | array hb _ _ => simp [jsonEqual_items hb, items?]
    | _ => simp [jsonEqual]
  | str text =>
    cases hb with
    | number hb _ => simp [jsonEqual_number hb, number?]
    | array hb _ _ => simp [jsonEqual_items hb, items?]
    | _ => simp [jsonEqual, equal]
  | number ha hx =>
    cases hb with
    | number hb hy =>
      rw [jsonEqual_number hb, ha, JsonData.number.injEq]
      exact Number.equal_iff hx hy
    | array hb _ _ => simp [jsonEqual_items hb, items?_of_number ha]
    | _ => simp [jsonEqual_of_number ha, equalsNumber, operand?, number?]
  | array ha hlength _ ih =>
    cases hb with
    | number hb _ => simp [jsonEqual_of_items ha, items?_of_number hb]
    | array hb hlength' hitems =>
      rw [jsonEqual_of_items ha, hb, JsonData.sequence.injEq]
      exact jsonEqualItems_iff hlength hlength' fun p hp q hq => ih p hp (hitems q hq)
    | _ => simp [jsonEqual_of_items ha, items?]
  | @mapping es names property hes hnames _ ih =>
    cases hb with
    | number hb _ => simp [jsonEqual_number hb, number?]
    | array hb _ _ => simp [jsonEqual_items hb, items?]
    | @mapping fs names' property' hfs hnames' hvalues =>
      -- The names of the maps are those of the mappings, so that equality on both sides is that of
      -- names and, under each, of what is found there.
      have hsame : (∀ name, (es.get? (.str name)).isSome = (fs.get? (.str name)).isSome) ↔
          names = names' := by
        simp only [Bool.eq_iff_iff, ← hnames, ← hnames', Finset.ext_iff]
      rw [jsonEqual_mapping_iff hes hfs, JsonData.object_eq_iff, hsame]
      refine and_congr_right fun _ => ⟨fun h name hname hname' => ?_, fun h name v w hv hw => ?_⟩
      · obtain ⟨v, hv⟩ := Option.isSome_iff_exists.1 ((hnames name).1 hname)
        obtain ⟨w, hw⟩ := Option.isSome_iff_exists.1 ((hnames' name).1 hname')
        exact (ih name v hname hv (hvalues name w hname' hw)).1 (h name v w hv hw)
      · have hname : name ∈ names := (hnames name).2 (by rw [hv]; rfl)
        have hname' : name ∈ names' := (hnames' name).2 (by rw [hw]; rfl)
        exact (ih name v hname hv (hvalues name w hname' hw)).2 (h name hname hname')
    | _ => simp [jsonEqual, equal]

end Denotes

/-! ## Equality of parts -/

/-- Positions alone lead to the items of arrays. -/
lemma HasPartAt.of_items {v token w : Value} {items : List Value} (h : v.HasPartAt token w)
    (hitems : v.items? = some items) : ∃ i : Nat, token = .int i ∧ items[i]? = some w := by
  cases h with
  | item hitems' hget =>
    obtain rfl := Option.some.inj (hitems.symm.trans hitems')
    exact ⟨_, rfl, hget⟩
  | entry _ | field _ => cases hitems

/-- Names alone lead to what is found under them. -/
lemma HasPartAt.of_named {es : Entries} {token w : Value} (h : (mapping es).HasPartAt token w)
    (hes : es.Named) : ∃ name, token = .str name ∧ es.get? (.str name) = some w := by
  cases h with
  | item hitems _ => cases hitems
  | entry he =>
    obtain ⟨name, hname⟩ := hes.text _ he
    exact ⟨name, hname, hname ▸ hes.get?_of_mem he⟩

/-- The items of equal arrays are equal at each position. -/
lemma jsonEqualItems_getElem? {vs ws : List Value} {i : Nat} {v w : Value}
    (h : jsonEqualItems vs ws = true) (hv : vs[i]? = some v) (hw : ws[i]? = some w) :
    v.jsonEqual w = true := by
  induction vs generalizing ws i with
  | nil => cases hv
  | cons v' vs ih =>
    cases ws with
    | nil => cases hw
    | cons w' ws =>
      rw [jsonEqualItems, Bool.and_eq_true] at h
      cases i with
      | zero =>
        obtain rfl := Option.some.inj hv
        obtain rfl := Option.some.inj hw
        exact h.1
      | succ i => exact ih h.2 hv hw

/-! ## Plain values -/

namespace IsPlain

variable {a b c : Value}

/-- A mapping from one name to a plain value is plain. -/
lemma single {name : String} (ha : a.IsPlain) : (Value.mapping [(.str name, a)]).IsPlain :=
  .mapping ⟨by simp, by simp⟩ (by simp [ha])

/-- **Every plain value denotes something.** -/
lemma exists_denotes (h : a.IsPlain) : ∃ x, a.Denotes x := by
  induction h with
  | null => exact ⟨_, .null⟩
  | bool truth => exact ⟨_, .bool truth⟩
  | int n => exact ⟨_, .number (n := .int n) rfl rfl⟩
  | @float x hx =>
    have hexact : ∃ place, (Number.float x).exactPlace? = some place := by
      cases x with
      | nan => exact absurd rfl hx
      | infinity _ | finite _ _ _ => exact ⟨_, rfl⟩
    obtain ⟨place, hplace⟩ := hexact
    exact ⟨_, .number rfl hplace⟩
  | str text => exact ⟨_, .str text⟩
  | array hitems _ ih =>
    choose! datum hdatum using ih
    obtain ⟨hlength, hpairs⟩ := List.forall₂_iff_zip.1 <|
      List.forall₂_map_right_iff.2 (List.forall₂_same.2 hdatum)
    exact ⟨_, .array hitems hlength fun p hp => hpairs hp⟩
  | @mapping es hes _ ih =>
    obtain ⟨names, hnames⟩ := Entries.Named.exists_names es
    have hdatum : ∀ name : {name // name ∈ names}, ∃ x, ∀ v, es.get? (.str name) = some v →
        v.Denotes x := by
      intro name
      obtain ⟨v, hv⟩ := Option.isSome_iff_exists.1 ((hnames name).1 name.2)
      obtain ⟨x, hx⟩ := ih _ (Entries.mem_of_get? hv)
      exact ⟨x, fun w hw => Option.some.inj (hv.symm.trans hw) ▸ hx⟩
    choose property hproperty using hdatum
    exact ⟨_, .mapping hes hnames fun name v hname hv => hproperty ⟨name, hname⟩ v hv⟩

/-- Equal plain values denote the same. -/
lemma jsonEqual_iff (ha : a.IsPlain) (hb : b.IsPlain) :
    a.jsonEqual b = true ↔ ∃ x, a.Denotes x ∧ b.Denotes x := by
  obtain ⟨x, hx⟩ := ha.exists_denotes
  obtain ⟨y, hy⟩ := hb.exists_denotes
  constructor
  · intro h
    obtain rfl := (hx.jsonEqual_iff hy).1 h
    exact ⟨x, hx, hy⟩
  · rintro ⟨z, hz, hz'⟩
    exact (hz.jsonEqual_iff hz').2 rfl

/-- JSON equality of plain values is symmetric. -/
lemma jsonEqual_comm (ha : a.IsPlain) (hb : b.IsPlain) : a.jsonEqual b = b.jsonEqual a := by
  rw [Bool.eq_iff_iff, ha.jsonEqual_iff hb, hb.jsonEqual_iff ha]
  exact exists_congr fun x => and_comm

/-- JSON equality of plain values is transitive. -/
lemma jsonEqual_trans (ha : a.IsPlain) (hb : b.IsPlain) (hc : c.IsPlain)
    (hab : a.jsonEqual b = true) (hbc : b.jsonEqual c = true) : a.jsonEqual c = true := by
  obtain ⟨x, hax, hbx⟩ := (ha.jsonEqual_iff hb).1 hab
  obtain ⟨y, hby, hcy⟩ := (hb.jsonEqual_iff hc).1 hbc
  obtain rfl : x = y := (hbx.jsonEqual_iff hby).1 hb.jsonEqual_self
  exact (ha.jsonEqual_iff hc).2 ⟨x, hax, hcy⟩

/-- The parts of plain values are plain. -/
lemma of_hasPartAt {token : Value} (ha : a.IsPlain) (h : a.HasPartAt token b) : b.IsPlain := by
  cases h with
  | item hitems hget => exact ha.item hitems (List.mem_of_getElem? hget)
  | entry he =>
    cases ha with
    | array hitems _ => cases hitems
    | mapping _ hall => exact hall _ he
  | field _ =>
    cases ha with
    | array hitems _ => cases hitems

/-- Equal plain values have equal parts: one token leads to values that are equal. -/
lemma jsonEqual_part {token u w : Value} (ha : a.IsPlain) (hb : b.IsPlain)
    (h : a.jsonEqual b = true) (hu : a.HasPartAt token u) (hw : b.HasPartAt token w) :
    u.jsonEqual w = true := by
  cases ha with
  | array hitems _ =>
    rw [jsonEqual_of_items hitems, Option.any_eq_true] at h
    obtain ⟨us, hus, h⟩ := h
    obtain ⟨i, rfl, hgetu⟩ := hu.of_items hitems
    obtain ⟨j, hj, hgetw⟩ := hw.of_items hus
    obtain rfl : i = j := Int.ofNat.inj (Value.int.inj hj)
    exact jsonEqualItems_getElem? h hgetu hgetw
  | mapping hes _ =>
    cases hb with
    | array hitems _ =>
      rw [jsonEqual_items hitems] at h
      cases h
    | mapping hfs _ =>
      obtain ⟨name, rfl, hgetu⟩ := hu.of_named hes
      obtain ⟨name', hname, hgetw⟩ := hw.of_named hfs
      obtain rfl : name = name' := Value.str.inj hname
      exact ((jsonEqual_mapping_iff hes hfs).1 h).2 name u w hgetu hgetw
    | _ => cases h
  | _ =>
    cases hu with
    | item hitems _ => cases hitems

/-- **Equal plain values are equal at every path** that leads into both. -/
lemma jsonEqual_at {path : Path} {u w : Value} (ha : a.IsPlain) (hb : b.IsPlain)
    (h : a.jsonEqual b = true) (hu : a.LeadsTo path u) (hw : b.LeadsTo path w) :
    u.jsonEqual w = true := by
  induction hu generalizing b with
  | here a =>
    cases hw
    exact h
  | step hpart _ ih =>
    cases hw with
    | step hpart' hrest =>
      exact ih (ha.of_hasPartAt hpart) (hb.of_hasPartAt hpart')
        (ha.jsonEqual_part hb h hpart hpart') hrest

end IsPlain

end Value

/-! ## JSON equality as a whole -/

/-- **JSON equality is equality of data.** Every plain value denotes one datum, in which numbers are
exact and apart from truth values, arrays of both kinds are sequences, and mappings are maps without
an order; plain values are JSON-equal exactly if they denote the same. So JSON equality of plain
values is an equivalence, and no values are equal if at some path there is a truth value in the one
and a number in the other. -/
theorem jsonEqual_iff_sameDatum {a b c : Value} (ha : a.IsPlain) (hb : b.IsPlain)
    (hc : c.IsPlain) :
    (∃! x, a.Denotes x) ∧
      (a.jsonEqual b = true ↔ ∃ x, a.Denotes x ∧ b.Denotes x) ∧
      a.jsonEqual a = true ∧
      a.jsonEqual b = b.jsonEqual a ∧
      (a.jsonEqual b = true → b.jsonEqual c = true → a.jsonEqual c = true) ∧
      ∀ path truth w n, a.LeadsTo path (.bool truth) → b.LeadsTo path w → w.number? = some n →
        a.jsonEqual b = false ∧ b.jsonEqual a = false := by
  refine ⟨?_, ha.jsonEqual_iff hb, ha.jsonEqual_self, ha.jsonEqual_comm hb,
    ha.jsonEqual_trans hb hc, fun path truth w n hu hw hn => ?_⟩
  · obtain ⟨x, hx⟩ := ha.exists_denotes
    exact ⟨x, hx, fun y hy => (hy.jsonEqual_iff hx).1 ha.jsonEqual_self⟩
  · rw [← ha.jsonEqual_comm hb, and_self, Bool.eq_false_iff]
    intro h
    have hat := ha.jsonEqual_at hb h hu hw
    rw [Value.jsonEqual_number hn] at hat
    cases hat

/-- A line with a number and a switch. -/
def switchedLine : Value := .mapping [(.str "line", .tuple [.int 1, .bool true])]

/-- The same line, of another kind and with a double. -/
def switchedLine' : Value := .mapping [(.str "line", .list [.float (.ofInt 1), .bool true])]

/-- A line with a number in place of the switch. -/
def numberedLine : Value := .mapping [(.str "line", .list [.int 1, .int 1])]

/-- The line denotes what the other form of it denotes. It is unlike the line with a number in place
of the switch, although a truth value counts as one. -/
theorem switchedLine_denoted :
    (∃ x, switchedLine.Denotes x ∧ switchedLine'.Denotes x) ∧
      switchedLine.jsonEqual numberedLine = false := by
  have hswitched : switchedLine.IsPlain := .single <| .array rfl <| by
    simp [Value.IsPlain.int, Value.IsPlain.bool]
  have hfloat : (Value.float (.ofInt 1)).IsPlain := .float (by decide +kernel)
  have hswitched' : switchedLine'.IsPlain := .single <| .array rfl <| by
    simp [hfloat, Value.IsPlain.bool]
  have hnumbered : numberedLine.IsPlain := .single <| .array rfl <| by simp [Value.IsPlain.int]
  obtain ⟨-, hsame, -⟩ := jsonEqual_iff_sameDatum hswitched hswitched' hnumbered
  obtain ⟨-, -, -, -, -, hapart⟩ := jsonEqual_iff_sameDatum hswitched hnumbered hswitched'
  refine ⟨hsame.1 (by decide +kernel), ?_⟩
  have hline : ∀ v, (Value.mapping [(.str "line", v)]).HasPartAt (.str "line") v := fun v =>
    .entry List.mem_cons_self
  exact (hapart [.str "line", .int 1] true (.int 1) (.int 1)
    (.step (hline _) (.step (.item (i := 1) rfl rfl) (.here _)))
    (.step (hline _) (.step (.item (i := 1) rfl rfl) (.here _))) rfl).1

end DataSchema
