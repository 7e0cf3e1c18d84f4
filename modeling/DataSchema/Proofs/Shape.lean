import Mathlib
import DataSchema.Proofs.CastRelations

set_option autoImplicit false

/-!
# Casts keep the shape of values

Where no records are built, a cast makes a mapping of a mapping, under some of its keys, an array of
an array, with as many items, and a scalar of a scalar; and so it is with all parts. Whatever a
schema is composed of, nothing is made up, renamed or moved on the way.

## Main definitions

* `DataSchema.Value.IsData` — values built from scalars, arrays and mappings.
* `DataSchema.Value.KeepsShape` — values and what becomes of them, of the same shape.

## Main results

* `DataSchema.Value.KeepsShape.trans`, `DataSchema.Value.KeepsShape.merge` — shapes are kept step by
  step, and by putting mappings over each other.
* `DataSchema.keepsShape_of_cast` — casts of whole values.
-/

namespace DataSchema

namespace Value

/-! ## Data -/

/-- A value is built from scalars, arrays of either kind, and mappings, in which no two different
keys count as the same. -/
inductive IsData : Value → Prop
  /-- Scalars. -/
  | scalar {v : Value} : v.isScalar = true → IsData v
  /-- Arrays. -/
  | array {v : Value} {items : List Value} : v.items? = some items →
    (∀ w ∈ items, IsData w) → IsData v
  /-- Mappings. -/
  | mapping {entries : Entries} :
    (∀ e ∈ entries, ∀ f ∈ entries, e.1.sameKey f.1 = true → e.1 = f.1) →
    (∀ e ∈ entries, IsData e.2) → IsData (.mapping entries)

namespace IsData

variable {v : Value}

/-- The items of an array of data are data. -/
lemma item {items : List Value} (h : v.IsData) (hitems : v.items? = some items) {w : Value}
    (hw : w ∈ items) : w.IsData := by
  cases h with
  | scalar hscalar =>
    rw [items?_of_isScalar hscalar] at hitems
    cases hitems
  | array hitems' hall =>
    obtain rfl := Option.some.inj (hitems.symm.trans hitems')
    exact hall w hw
  | mapping => cases hitems

/-- Keys of a mapping of data that are the same are equal. -/
lemma key_eq {es : Entries} (h : (Value.mapping es).IsData) {k l w u : Value} (hk : (k, w) ∈ es)
    (hl : (l, u) ∈ es) (hsame : k.sameKey l = true) : k = l := by
  cases h with
  | scalar hscalar => cases hscalar
  | array hitems => cases hitems
  | mapping hkeys => exact hkeys _ hk _ hl hsame

/-- The values of a mapping of data are data. -/
lemma property {es : Entries} (h : (Value.mapping es).IsData) {e : Value × Value} (he : e ∈ es) :
    e.2.IsData := by
  cases h with
  | scalar hscalar => cases hscalar
  | array hitems => cases hitems
  | mapping _ hall => exact hall e he

/-- Data that has the properties of an object is a mapping. -/
lemma eq_mapping (h : v.IsData) {required : List Value} {es : Entries}
    (hview : v.objectView? required = some es) : v = .mapping es := by
  cases h with
  | scalar hscalar =>
    cases v with
    | mapping _ | record _ _ => cases hscalar
    | _ => cases hview
  | array hitems =>
    cases v with
    | mapping _ | record _ _ => cases hitems
    | _ => cases hview
  | mapping => rw [Option.some.inj hview]

end IsData

/-! ## Shapes -/

/-- A value keeps its shape in what becomes of it: a scalar becomes a scalar, an array one with as
many items, each of which keeps its shape, and a mapping one under some of its keys, with values
that keep the shape of those under the same keys. -/
inductive KeepsShape : Value → Value → Prop
  /-- A scalar becomes a scalar. -/
  | scalar {v r : Value} : v.isScalar = true → r.isScalar = true → KeepsShape v r
  /-- An array becomes an array, item by item. -/
  | array {v r : Value} {vs rs : List Value} : v.items? = some vs → r.items? = some rs →
    vs.length = rs.length →
    (∀ (i : Nat) x y, vs[i]? = some x → rs[i]? = some y → KeepsShape x y) → KeepsShape v r
  /-- A mapping becomes a mapping, each entry made of one with the same key. -/
  | mapping {es fs : Entries} (origin : Value × Value → Value) :
    (∀ f ∈ fs, (f.1, origin f) ∈ es) → (∀ f ∈ fs, KeepsShape (origin f) f.2) →
    KeepsShape (.mapping es) (.mapping fs)

namespace KeepsShape

variable {u v r : Value} {es fs gs : Entries}

/-- A mapping keeps its shape if every entry of what becomes of it is made of one with the same
key. -/
lemma of_entries (h : ∀ f ∈ fs, ∃ e ∈ es, e.1 = f.1 ∧ e.2.KeepsShape f.2) :
    (Value.mapping es).KeepsShape (.mapping fs) := by
  have horigin : ∀ f : Value × Value, ∃ w, f ∈ fs → (f.1, w) ∈ es ∧ w.KeepsShape f.2 := by
    intro f
    by_cases hf : f ∈ fs
    · obtain ⟨⟨k, w⟩, he, hkey, hshape⟩ := h f hf
      obtain rfl : k = f.1 := hkey
      exact ⟨w, fun _ => ⟨he, hshape⟩⟩
    · exact ⟨.null, fun hf' => absurd hf' hf⟩
  choose origin horigin using horigin
  exact .mapping origin (fun f hf => (horigin f hf).1) fun f hf => (horigin f hf).2

/-- What keeps the shape of a mapping, as a mapping, has entries made of those of the mapping. -/
lemma entry (h : v.KeepsShape (.mapping fs)) :
    ∃ es, v = .mapping es ∧ ∀ f ∈ fs, ∃ w, (f.1, w) ∈ es ∧ w.KeepsShape f.2 := by
  cases h with
  | scalar _ hr => cases hr
  | array _ hr => cases hr
  | mapping origin horigin hall => exact ⟨_, rfl, fun f hf => ⟨origin f, horigin f hf, hall f hf⟩⟩

/-- Data keeps its shape as it is. -/
lemma refl (hv : v.IsData) : v.KeepsShape v := by
  induction hv with
  | scalar h => exact .scalar h h
  | array hitems _ ih =>
    refine .array hitems hitems rfl fun i x y hx hy => ?_
    obtain rfl := Option.some.inj (hx.symm.trans hy)
    exact ih x (List.mem_of_getElem? hx)
  | mapping _ _ ih => exact .mapping Prod.snd (fun f hf => hf) ih

/-- What keeps the shape of data is data. -/
lemma isData (h : v.KeepsShape r) (hv : v.IsData) : r.IsData := by
  induction h with
  | scalar _ hr => exact .scalar hr
  | @array v r vs rs hvs hrs hlength _ ih =>
    refine .array hrs fun y hy => ?_
    obtain ⟨i, hi, rfl⟩ := List.getElem_of_mem hy
    have hi' : i < vs.length := by omega
    have hx := List.getElem_mem hi'
    exact ih i _ _ (List.getElem?_eq_getElem hi') (List.getElem?_eq_getElem hi) (hv.item hvs hx)
  | mapping origin horigin _ ih =>
    refine .mapping (fun f hf g hg hsame => ?_) fun f hf => ?_
    · exact hv.key_eq (horigin f hf) (horigin g hg) hsame
    · exact ih f hf (hv.property (horigin f hf))

/-- **Shapes are kept step by step.** -/
lemma trans (h : u.KeepsShape v) (h' : v.KeepsShape r) : u.KeepsShape r := by
  induction h generalizing r with
  | scalar hu hv =>
    cases h' with
    | scalar _ hr => exact .scalar hu hr
    | array hitems =>
      rw [items?_of_isScalar hv] at hitems
      cases hitems
    | mapping => cases hv
  | @array u v us vs hus hvs hlength _ ih =>
    cases h' with
    | scalar hv =>
      rw [items?_of_isScalar hv] at hvs
      cases hvs
    | @array _ _ vs' rs hvs' hrs hlength' hall' =>
      obtain rfl := Option.some.inj (hvs.symm.trans hvs')
      refine .array hus hrs (hlength.trans hlength') fun i x z hx hz => ?_
      obtain ⟨hi, -⟩ := List.getElem?_eq_some_iff.1 hz
      have hi' : i < vs.length := by omega
      have hy := List.getElem?_eq_getElem hi'
      exact ih i x _ hx hy (hall' i _ z hy hz)
    | mapping => cases hvs
  | @mapping es fs origin horigin _ ih =>
    cases h' with
    | scalar hv => cases hv
    | array hvs => cases hvs
    | @mapping _ gs origin' horigin' hall' =>
      refine .mapping (fun g => origin (g.1, origin' g)) (fun g hg => ?_) fun g hg => ?_
      · exact horigin _ (horigin' g hg)
      · exact ih _ (horigin' g hg) (hall' g hg)

/-- **Mappings that keep the shape of data** keep it when they are put over each other: an entry
that is put over another has the key of that one. -/
lemma merge (hv : v.IsData) (hf : v.KeepsShape (.mapping fs)) (hg : v.KeepsShape (.mapping gs)) :
    v.KeepsShape (.mapping (Entries.merge fs gs)) := by
  obtain ⟨es, rfl, hfs⟩ := hf.entry
  obtain ⟨es', heq, hgs⟩ := hg.entry
  obtain rfl := Value.mapping.inj heq
  have hkeys : ∀ k, k ∈ fs.map Prod.fst ∨ k ∈ gs.map Prod.fst → ∃ w, (k, w) ∈ es := by
    rintro k (hk | hk)
    · obtain ⟨f, hf, rfl⟩ := List.mem_map.1 hk
      exact (hfs f hf).imp fun w hw => hw.1
    · obtain ⟨g, hg, rfl⟩ := List.mem_map.1 hk
      exact (hgs g hg).imp fun w hw => hw.1
  refine of_entries fun e he => ?_
  rcases Entries.mem_merge he with he | ⟨g, hg, hvalue, hkey⟩
  · obtain ⟨w, hw, hshape⟩ := hfs e he
    exact ⟨_, hw, rfl, hshape⟩
  · obtain ⟨w, hw, hshape⟩ := hgs g hg
    have heq : e.1 = g.1 := by
      rcases hkey with hkey | ⟨hsame, hmem⟩
      · exact hkey
      · obtain ⟨w', hw'⟩ := hkeys e.1 hmem
        exact hv.key_eq hw' hw hsame
    exact ⟨_, hw, heq.symm, hvalue ▸ hshape⟩

end KeepsShape

end Value

open Casting

/-- **Every step of a cast keeps the shape of data.** -/
lemma isKept_keepsShape : IsKept fun v r => v.IsData → v.KeepsShape r where
  refl v hv := .refl hv
  trans huv hvw hu := (huv hu).trans (hvw ((huv hu).isData hu))
  scalar hv hr _ := .scalar hv hr
  items hitems hlength hall hv := by
    refine .array hitems rfl hlength fun i x y hx hy => ?_
    exact hall i x y hx hy (hv.item hitems (List.mem_of_getElem? hx))
  entries hview hall hv := by
    obtain rfl := hv.eq_mapping hview
    refine .of_entries fun f hf => ?_
    obtain ⟨e, he, hkey, hshape⟩ := hall f hf
    exact ⟨e, he, hkey, hshape (hv.property he)⟩
  merge hfs hgs hv := .merge hv (hfs hv) (hgs hv)

/-- **Casts keep the shape of values.** What a cast makes of a value built from scalars, arrays and
mappings has its shape, whatever schemas, references and discriminators lead to it, if none of them
asks for records. -/
theorem keepsShape_of_cast {context : CastContext} {node : Node}
    (hnode : context.registry.BuildsNoRecords node) {v r : Value} (hv : v.IsData)
    (h : (cast context node v).outcome = .ok (.ok r)) : v.KeepsShape r :=
  castNode_kept isKept_keepsShape hnode (cast_outcome_ok.1 h) hv

/-- A word. -/
def word : Schema where
  type := some .string

/-- A whole number. -/
def count : Schema where
  type := some .integer

/-- The day on which something is due. -/
def dueDay : Schema where
  type := some .string
  format := .str "date"

/-- A parcel, which is of the kind that it names. -/
def parcel : Schema where
  type := some .object
  properties := some [("kind", .schema word), ("weight", .schema count)]
  discriminator := some ⟨"kind", []⟩

/-- What a parcel in a hurry has besides. -/
def hurry : Schema where
  type := some .object
  properties := some [("day", .schema dueDay)]

/-- A parcel in a hurry. -/
def express : Schema where
  allOf := some [.ref "Parcel", .schema hurry]

/-- A load of parcels. -/
def load : Schema where
  type := some .array
  items := some (.ref "Parcel")

/-- Parcels, of which some are in a hurry. -/
def parcels : Registry := ⟨[("Parcel", .schema parcel), ("Express", .schema express)]⟩

/-- The nodes that a load of parcels leads to. -/
def loadNodes : List Node :=
  [.ref "Parcel", .ref "Express"] ++
    [load, parcel, express, hurry, dueDay, count, word].map .schema

/-- Loads of parcels lead to no schema with a record type. -/
lemma load_buildsNoRecords : parcels.BuildsNoRecords (.schema load) := by
  refine .of_list loadNodes ?_ ?_ (by simp [loadNodes])
  · intro name hname target hget
    have hnames : name = "Parcel" ∨ name = "Express" := by simpa [loadNodes] using hname
    rcases hnames with rfl | rfl <;> obtain rfl := Option.some.inj hget <;> simp [loadNodes]
  · have hschemas : ∀ t ∈ [load, parcel, express, hurry, dueDay, count, word],
        parcels.steps t ⊆ loadNodes ∧ t.targetType = .absent := by
      simp [Registry.steps, Keywords.children, Keywords.partNodes, Keywords.sameNodes,
        Keywords.declared, Keywords.allOfList, Keywords.anyOfList, Keywords.oneOfList,
        Additional.node?, load, parcel, express, hurry, dueDay, count, word, parcels, loadNodes]
    exact fun t ht => hschemas t (by simpa [loadNodes] using ht)

/-- A parcel in a hurry, with a note. -/
def gift : Value :=
  .mapping [(.str "kind", .str "Express"), (.str "weight", .str "2"),
    (.str "day", .str "2020-01-31"), (.str "note", .list [.null])]

/-- The parcel as it is delivered. -/
def delivered : Value :=
  .mapping [(.str "kind", .str "Express"), (.str "weight", .int 2),
    (.str "day", .date ⟨2020, 1, 31, by decide⟩)]

/-- A load of one parcel, which selects what it is composed of, keeps its shape. -/
theorem gift_keepsShape :
    parcels.BuildsNoRecords (.schema load) ∧ (Value.tuple [gift]).IsData ∧
    (cast ⟨parcels, .generic, 9⟩ (.schema load) (.tuple [gift])).outcome =
      .ok (.ok (.list [delivered])) ∧
    (Value.tuple [gift]).KeepsShape (.list [delivered]) := by
  have hnote : (Value.list [.null]).IsData :=
    .array rfl fun w hw => .scalar (by obtain rfl := List.mem_singleton.1 hw; rfl)
  have hgift : gift.IsData := by
    refine .mapping (by simp [Value.sameKey_str]) fun e he => ?_
    obtain rfl | rfl | rfl | rfl := by simpa [gift] using he
    exacts [.scalar rfl, .scalar rfl, .scalar rfl, hnote]
  have hdata : (Value.tuple [gift]).IsData :=
    .array rfl fun w hw => (List.mem_singleton.1 hw) ▸ hgift
  have hcast : (cast ⟨parcels, .generic, 9⟩ (.schema load) (.tuple [gift])).outcome =
      .ok (.ok (.list [delivered])) := by cbv
  exact ⟨load_buildsNoRecords, hdata, hcast,
    keepsShape_of_cast load_buildsNoRecords hdata hcast⟩

end DataSchema
