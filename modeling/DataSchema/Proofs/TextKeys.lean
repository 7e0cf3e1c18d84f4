import Mathlib.Data.List.Basic
import DataSchema.Schema.Basic

set_option autoImplicit false

/-!
# Texts as keys

A key that is a text equals that text and nothing else, so that look-ups of names in mappings, and
in the declared properties of a schema, are look-ups of texts.

## Main definitions

* `DataSchema.KeysApart` — no key stands twice.

## Main results

* `DataSchema.Value.equal_str` — only a text equals a text.
* `DataSchema.Entries.get?_append` — look-ups in entries that are put in a row.
* `DataSchema.Keywords.declares_iff` — the keys that a schema declares.
-/

namespace DataSchema

namespace Value

/-- Only a text equals a text. -/
lemma equal_str {k : Value} {name : String} : k.equal (.str name) = true ↔ k = .str name := by
  cases k <;> simp [equal, equalsNumber, operand?, number?]

/-- Only a text is the same key as a text. -/
lemma sameKey_str {k : Value} {name : String} :
    k.sameKey (.str name) = true ↔ k = .str name := by
  rw [← equal_str]
  cases k <;> simp [sameKey]

/-- A text is the same key as that text only. -/
lemma str_sameKey {k : Value} {name : String} :
    (Value.str name).sameKey k = true ↔ k = .str name := by
  cases k with
  | str s =>
    simp only [sameKey, equal, beq_iff_eq, str.injEq]
    exact eq_comm
  | _ => simp [sameKey, equal]

end Value

/-- No key stands twice. -/
def KeysApart {α : Type} (es : List (Value × α)) : Prop :=
  es.Pairwise fun e f => e.1.sameKey f.1 = false

/-- Texts are different keys when they are different. -/
lemma sameKey_eq_false {name name' : String} :
    (Value.str name).sameKey (.str name') = false ↔ name ≠ name' := by
  rw [← Bool.not_eq_true, Value.sameKey_str, Value.str.injEq]

/-- Whether a key stands twice is seen by the keys. -/
lemma keysApart_iff_keys {α : Type} {es : List (Value × α)} :
    KeysApart es ↔ (es.map Prod.fst).Pairwise fun k k' => k.sameKey k' = false := by
  rw [KeysApart, List.pairwise_map]

namespace Entries

/-- The value of a key in an entry and those after it. -/
lemma get?_cons (e : Value × Value) (es : Entries) (k : Value) :
    get? (e :: es) k = if e.1.sameKey k then some e.2 else get? es k := by
  unfold get?
  rw [List.find?_cons]
  cases e.1.sameKey k <;> rfl

/-- The value of a key in entries in a row: of the first if it is there, or else of the second. -/
lemma get?_append (es fs : Entries) (k : Value) :
    get? (es ++ fs) k = (get? es k).or (get? fs k) := by
  unfold get?
  rw [List.find?_append]
  cases es.find? fun e => e.1.sameKey k <;> rfl

/-- A key is present when one of the entries has it. -/
lemma has_iff {es : Entries} {k : Value} : has es k = true ↔ ∃ e ∈ es, e.1.sameKey k = true := by
  rw [has, get?, Option.isSome_map, List.find?_isSome]

/-- Entries without a text among their keys have no value of it. -/
lemma get?_eq_none {es : Entries} {name : String} (h : ∀ e ∈ es, e.1 ≠ .str name) :
    get? es (.str name) = none := by
  rw [get?, Option.map_eq_none_iff, List.find?_eq_none]
  exact fun e he hkey => h e he (Value.sameKey_str.1 hkey)

/-- A look-up that succeeds finds one of the entries. -/
lemma mem_of_get? {es : Entries} {name : String} {v : Value} (h : es.get? (.str name) = some v) :
    (.str name, v) ∈ es := by
  obtain ⟨e, he, rfl⟩ := Option.map_eq_some_iff.1 h
  have hkey := List.find?_some he
  rw [← Value.sameKey_str.1 hkey]
  exact List.mem_of_find?_eq_some he

/-- A key is present in a part of the entries only if it is present in all. -/
lemma has_append {es fs : Entries} {k : Value} :
    has (es ++ fs) k = true ↔ has es k = true ∨ has fs k = true := by
  simp only [has_iff, List.mem_append, or_and_right, exists_or]

/-- Which keys are present depends on the keys alone. -/
lemma has_of_keys {es fs : Entries} (h : es.map Prod.fst = fs.map Prod.fst) {k : Value} :
    has es k = true ↔ has fs k = true := by
  have hkeys : ∀ gs : Entries, has gs k = true ↔ ∃ k' ∈ gs.map Prod.fst, k'.sameKey k = true := by
    intro gs
    simp [has_iff]
  rw [hkeys es, hkeys fs, h]

end Entries

namespace Keywords

/-- A schema declares the names of its declared properties. -/
lemma declares_iff {s : Schema} {k : Value} :
    s.declares k = true ↔ ∃ p ∈ s.declared, k = .str p.1 := by
  simp only [declares, List.any_eq_true, Value.equal_str]

end Keywords

/-- A name among names of things is found there. -/
lemma lookup_of_mem {α : Type} {ps : List (String × α)} {p : String × α} (h : p ∈ ps) :
    ∃ a, ps.lookup p.1 = some a := by
  induction ps with
  | nil => cases h
  | cons x xs ih =>
    obtain ⟨name, a⟩ := x
    rw [List.lookup_cons]
    cases hname : p.1 == name with
    | true => exact ⟨a, rfl⟩
    | false =>
      rcases List.mem_cons.1 h with rfl | h
      · simp at hname
      · exact ih h

/-- What is found under a name is among the things. -/
lemma mem_of_lookup {α : Type} {ps : List (String × α)} {name : String} {a : α}
    (h : ps.lookup name = some a) : (name, a) ∈ ps := by
  obtain ⟨before, after, rfl, -⟩ := List.lookup_eq_some_iff.1 h
  simp

/-- A thing among things with distinct names is found under its name. -/
lemma lookup_eq_of_nodup {α : Type} {ps : List (String × α)} (hnames : (ps.map Prod.fst).Nodup)
    {p : String × α} (h : p ∈ ps) : ps.lookup p.1 = some p.2 := by
  induction ps with
  | nil => cases h
  | cons x xs ih =>
    rw [List.map_cons, List.nodup_cons] at hnames
    obtain ⟨name, a⟩ := x
    rw [List.lookup_cons]
    rcases List.mem_cons.1 h with rfl | h
    · simp
    · have hmem : p.1 ∈ xs.map Prod.fst := List.mem_map_of_mem h
      have hne : (p.1 == name) = false := beq_eq_false_iff_ne.2 fun heq => hnames.1 (heq ▸ hmem)
      rw [hne]
      exact ih hnames.2 h

end DataSchema
