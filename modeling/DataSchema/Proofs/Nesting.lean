import DataSchema.Value.Mapping
import DataSchema.Proofs.TextKeys

set_option autoImplicit false

/-!
# Nesting of values

The parts of a value are the items of an array and the properties of an object, as checks and casts
see them. Every value nests its parts finitely deep.

## Main definitions

* `DataSchema.Value.HasPart` — the parts of a value.
* `DataSchema.Value.HasPartAt` — the parts of a value with the tokens that lead to them.
* `DataSchema.Value.NestsWithin` — values with parts nested within a number of levels.

## Main results

* `DataSchema.Value.exists_nestsWithin` — every value nests finitely deep.
-/

namespace DataSchema

namespace Value

/-- A value has a part: an item of an array, or the value of a property of an object. -/
inductive HasPart (v : Value) : Value → Prop
  /-- The items of an array. -/
  | item {items : List Value} {w : Value} : v.items? = some items → w ∈ items → HasPart v w
  /-- The values of properties. -/
  | property {required : List Value} {es : Entries} {e : Value × Value} :
    v.objectView? required = some es → e ∈ es → HasPart v e.2

/-- The value under a name is a part. -/
lemma HasPart.get {v w : Value} {required : List Value} {es : Entries} {name : String}
    (h : v.objectView? required = some es) (hw : es.get? (.str name) = some w) : v.HasPart w :=
  .property h (Entries.mem_of_get? hw)

/-- The parts of a list are its items. -/
lemma hasPart_list {items : List Value} {w : Value} : (list items).HasPart w ↔ w ∈ items := by
  constructor
  · rintro (⟨hitems, hw⟩ | ⟨hview, -⟩)
    · rwa [Option.some.inj hitems]
    · cases hview
  · exact fun hw => .item rfl hw

/-- The parts of a mapping are the values of its entries. -/
lemma hasPart_mapping {es : Entries} {w : Value} :
    (mapping es).HasPart w ↔ ∃ e ∈ es, e.2 = w := by
  constructor
  · rintro (⟨hitems, -⟩ | ⟨hview, he⟩)
    · cases hitems
    · rw [← Option.some.inj hview] at he
      exact ⟨_, he, rfl⟩
  · rintro ⟨e, he, rfl⟩
    have hview : (mapping es).objectView? [] = some es := rfl
    exact .property hview he

/-- A part is smaller than the value. -/
lemma HasPart.sizeOf_lt {v w : Value} (h : v.HasPart w) : sizeOf w < sizeOf v := by
  cases h with
  | @item items w hitems hw =>
    have hlt : sizeOf w < sizeOf items := List.sizeOf_lt_of_mem hw
    cases v with
    | list _ | tuple _ =>
      obtain rfl := Option.some.inj hitems
      simp only [list.sizeOf_spec, tuple.sizeOf_spec]
      omega
    | _ => cases hitems
  | @property required es e hview he =>
    cases v with
    | mapping entries =>
      obtain rfl := Option.some.inj hview
      have hlt : sizeOf e < sizeOf entries := List.sizeOf_lt_of_mem he
      obtain ⟨k, w⟩ := e
      simp only [mapping.sizeOf_spec, Prod.mk.sizeOf_spec] at hlt ⊢
      omega
    | record type fields =>
      obtain rfl := Option.some.inj hview
      obtain ⟨field, hfield, rfl⟩ := List.mem_map.1 he
      have hlt : sizeOf field < sizeOf fields :=
        List.sizeOf_lt_of_mem (List.mem_filter.1 hfield).1
      obtain ⟨name, w⟩ := field
      simp only [record.sizeOf_spec, Prod.mk.sizeOf_spec] at hlt ⊢
      omega
    | _ => cases hview

/-- A token leads from a value to a part of it: a position to an item of an array, a key to the
value of an entry, a name to the value of a field. -/
inductive HasPartAt : Value → Value → Value → Prop
  /-- Positions of items. -/
  | item {v w : Value} {items : List Value} {i : Nat} :
    v.items? = some items → items[i]? = some w → HasPartAt v (.int i) w
  /-- Keys of entries. -/
  | entry {es : Entries} {e : Value × Value} : e ∈ es → HasPartAt (.mapping es) e.1 e.2
  /-- Names of fields. -/
  | field {type : String} {fields : List (String × Value)} {f : String × Value} :
    f ∈ fields → HasPartAt (.record type fields) (.str f.1) f.2

/-- The keys of an object, as checks see it, lead to parts of it. -/
lemma HasPartAt.of_view {v : Value} {required : List Value} {es : Entries} {e : Value × Value}
    (h : v.objectView? required = some es) (he : e ∈ es) : v.HasPartAt e.1 e.2 := by
  cases v with
  | mapping entries =>
    obtain rfl := Option.some.inj h
    exact .entry he
  | record type fields =>
    obtain rfl := Option.some.inj h
    obtain ⟨f, hf, rfl⟩ := List.mem_map.1 he
    exact .field (List.mem_filter.1 hf).1
  | _ => cases h

/-- The names of an object, as checks see it, lead to what is found under them. -/
lemma HasPartAt.get {v w : Value} {required : List Value} {es : Entries} {name : String}
    (h : v.objectView? required = some es) (hw : es.get? (.str name) = some w) :
    v.HasPartAt (.str name) w :=
  .of_view h (Entries.mem_of_get? hw)

/-- A value has parts nested within a number of levels at most. -/
def NestsWithin : Nat → Value → Prop
  | 0, v => ∀ w, ¬v.HasPart w
  | n + 1, v => ∀ w, v.HasPart w → w.NestsWithin n

/-- A value whose parts nest no more deeply than some part of another nests no more deeply. -/
lemma NestsWithin.of_parts {v r : Value}
    (h : ∀ w, r.HasPart w → ∃ u, v.HasPart u ∧ ∀ n, u.NestsWithin n → w.NestsWithin n) {n : Nat}
    (hv : v.NestsWithin n) : r.NestsWithin n := by
  cases n with
  | zero =>
    intro w hw
    obtain ⟨u, hu, -⟩ := h w hw
    exact hv u hu
  | succ n =>
    intro w hw
    obtain ⟨u, hu, hnests⟩ := h w hw
    exact hnests n (hv u hu)

/-- **Every value nests finitely deep.** -/
theorem exists_nestsWithin (v : Value) : ∃ n, v.NestsWithin n := by
  suffices h : ∀ n v, sizeOf v ≤ n → NestsWithin n v from ⟨sizeOf v, h _ v (Nat.le_refl _)⟩
  intro n
  induction n with
  | zero => exact fun v hv w hw => by have := hw.sizeOf_lt; omega
  | succ n ih => exact fun v hv w hw => ih w (by have := hw.sizeOf_lt; omega)

end Value

end DataSchema
