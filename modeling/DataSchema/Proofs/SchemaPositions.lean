import DataSchema.Schema.Reader
import DataSchema.Proofs.TextKeys

set_option autoImplicit false

/-!
# Documents in schema position

The documents below a schema mapping that are read as schemas: those of the declared properties, of
the rule for undeclared ones, of items, of compositions and of the excluded schema. A document holds
the schema mappings that such steps lead to from it. Each step goes to a document that is less deep.

## Main definitions

* `DataSchema.Entries.visited` — the documents in schema position below a schema mapping.
* `DataSchema.Entries.retained` — those of which something is left in the schema.
* `DataSchema.Value.HoldsSchema` — the schema mappings in a document.

## Main results

* `DataSchema.Entries.depth_lt_of_mem_visited` — a document below a schema mapping is less deep.
-/

namespace DataSchema

/-! ## Documents in schema position -/

namespace Entries

/-- The documents of the declared properties, with their names. -/
def declaredDocuments (es : Entries) : List (String × Value) :=
  match es.get? (.str "properties") with
  | some (.mapping ps) => ps.map fun p => (p.1.text, p.2)
  | _ => []

/-- The documents of declared properties that are read. -/
lemma declaredDocuments_eq {es ps : Entries}
    (h : es.get? (.str "properties") = some (.mapping ps)) :
    es.declaredDocuments = ps.map fun p => (p.1.text, p.2) := by
  rw [declaredDocuments, h]

/-- The document for undeclared properties. A truth value is none. -/
def additionalDocument (es : Entries) : Option Value :=
  match es.get? (.str "additionalProperties") with
  | none | some (.bool _) => none
  | some v => some v

/-- The documents of the list under a keyword. -/
def listedDocuments (es : Entries) (keyword : String) : List Value :=
  match es.get? (.str keyword) with
  | some (.list items) => items
  | _ => []

/-- The documents of a list that is read. -/
lemma listedDocuments_eq {es : Entries} {keyword : String} {items : List Value}
    (h : es.get? (.str keyword) = some (.list items)) : es.listedDocuments keyword = items := by
  rw [listedDocuments, h]

/-- The documents in schema position directly below a schema mapping, those of properties apart. -/
def otherDocuments (es : Entries) : List Value :=
  es.additionalDocument.toList ++ (es.get? (.str "items")).toList ++ (es.listedDocuments "allOf" ++
    es.listedDocuments "anyOf" ++ es.listedDocuments "oneOf" ++ (es.get? (.str "not")).toList)

/-- The documents in schema position directly below a schema mapping. -/
def visited (es : Entries) : List Value :=
  es.declaredDocuments.map Prod.snd ++ es.otherDocuments

/-- The documents in schema position directly below a schema mapping, where only the last counts of
properties whose names have one text. -/
def retained (es : Entries) : List Value :=
  (SchemaReader.ofNamed es.declaredDocuments).map Prod.snd ++ es.otherDocuments

end Entries

/-- A document holds a schema mapping: it is the mapping, or a schema mapping with a document in
schema position below it that holds the mapping. References hold none. -/
inductive Value.HoldsSchema (below : Entries → List Value) : Value → Entries → Prop
  /-- A schema mapping holds itself. -/
  | here {es : Entries} : es.get? (.str "$ref") = none → HoldsSchema below (.mapping es) es
  /-- A schema mapping holds what a document below it holds. -/
  | inside {es fs : Entries} {v : Value} :
    es.get? (.str "$ref") = none → v ∈ below es → HoldsSchema below v fs →
      HoldsSchema below (.mapping es) fs

namespace Value.HoldsSchema

variable {below : Entries → List Value}

/-- What holds of a schema mapping and of all that are held below it holds of all that it holds. -/
lemma forall_mapping {P : Entries → Prop} {es : Entries} (href : es.get? (.str "$ref") = none) :
    (∀ fs, (Value.mapping es).HoldsSchema below fs → P fs) ↔
      P es ∧ ∀ v ∈ below es, ∀ fs, v.HoldsSchema below fs → P fs := by
  constructor
  · exact fun h => ⟨h es (.here href), fun v hv fs hfs => h fs (.inside href hv hfs)⟩
  · rintro ⟨hes, hbelow⟩ fs hfs
    cases hfs with
    | here => exact hes
    | inside _ hv hfs => exact hbelow _ hv fs hfs

/-- A reference holds no schema mapping. -/
lemma not_reference {es fs : Entries} {ref : Value} (href : es.get? (.str "$ref") = some ref) :
    ¬ (Value.mapping es).HoldsSchema below fs := by
  rintro (hnone | ⟨hnone, -⟩) <;> cases href.symm.trans hnone

end Value.HoldsSchema

/-! ## Depth -/

namespace Value

/-- No item is deeper than the deepest. -/
lemma depth_le_listDepth {items : List Value} {w : Value} (h : w ∈ items) :
    w.depth ≤ listDepth items := by
  induction items with
  | nil => cases h
  | cons x xs ih =>
    rw [listDepth]
    rcases List.mem_cons.1 h with rfl | h
    · exact Nat.le_max_left _ _
    · exact Nat.le_trans (ih h) (Nat.le_max_right _ _)

/-- An item is less deep than the list. -/
lemma depth_lt_list {items : List Value} {w : Value} (h : w ∈ items) :
    w.depth < (list items).depth := by
  have hle := depth_le_listDepth h
  rw [depth]
  omega

/-- The value of no entry is deeper than the deepest. -/
lemma depth_le_entriesDepth {es : Entries} {e : Value × Value} (h : e ∈ es) :
    e.2.depth ≤ entriesDepth es := by
  induction es with
  | nil => cases h
  | cons x xs ih =>
    obtain ⟨k, w⟩ := x
    rw [entriesDepth]
    rcases List.mem_cons.1 h with rfl | h
    · exact Nat.le_max_left _ _
    · exact Nat.le_trans (ih h) (Nat.le_max_right _ _)

/-- The value of an entry is less deep than the mapping. -/
lemma depth_lt_mapping {es : Entries} {e : Value × Value} (h : e ∈ es) :
    e.2.depth < (mapping es).depth := by
  have hle := depth_le_entriesDepth h
  rw [depth]
  omega

/-- What is found under a name is less deep than the mapping. -/
lemma depth_lt_get? {es : Entries} {name : String} {w : Value}
    (h : es.get? (.str name) = some w) : w.depth < (mapping es).depth :=
  depth_lt_mapping (e := (.str name, w)) (Entries.mem_of_get? h)

end Value

namespace Entries

variable {es : Entries} {w : Value}

/-- A document under a keyword is less deep than the mapping. -/
lemma depth_lt_of_mem_get? {keyword : String} (h : w ∈ (es.get? (.str keyword)).toList) :
    w.depth < (Value.mapping es).depth :=
  Value.depth_lt_get? (Option.mem_toList.1 h)

/-- A document in a list under a keyword is less deep than the mapping. -/
lemma depth_lt_of_mem_listedDocuments {keyword : String} (h : w ∈ es.listedDocuments keyword) :
    w.depth < (Value.mapping es).depth := by
  unfold listedDocuments at h
  split at h
  next items hitems => exact Nat.lt_trans (Value.depth_lt_list h) (Value.depth_lt_get? hitems)
  next => cases h

/-- The document for undeclared properties is less deep than the mapping. -/
lemma depth_lt_of_mem_additionalDocument (h : w ∈ es.additionalDocument.toList) :
    w.depth < (Value.mapping es).depth := by
  unfold additionalDocument at h
  split at h
  next => cases h
  next => cases h
  next v _ hv =>
    obtain rfl := List.mem_singleton.1 h
    exact Value.depth_lt_get? hv

/-- The document of a declared property is less deep than the mapping. -/
lemma depth_lt_of_mem_declaredDocuments (h : w ∈ es.declaredDocuments.map Prod.snd) :
    w.depth < (Value.mapping es).depth := by
  unfold declaredDocuments at h
  split at h
  next ps hps =>
    simp only [List.map_map, List.mem_map, Function.comp_apply] at h
    obtain ⟨p, hp, rfl⟩ := h
    exact Nat.lt_trans (Value.depth_lt_mapping hp) (Value.depth_lt_get? hps)
  next => cases h

/-- A document below a schema mapping is less deep. -/
lemma depth_lt_of_mem_visited (h : w ∈ es.visited) : w.depth < (Value.mapping es).depth := by
  simp only [visited, otherDocuments, List.mem_append] at h
  rcases h with h | (h | h) | ((h | h) | h) | h
  · exact depth_lt_of_mem_declaredDocuments h
  · exact depth_lt_of_mem_additionalDocument h
  · exact depth_lt_of_mem_get? h
  · exact depth_lt_of_mem_listedDocuments h
  · exact depth_lt_of_mem_listedDocuments h
  · exact depth_lt_of_mem_listedDocuments h
  · exact depth_lt_of_mem_get? h

end Entries

end DataSchema
