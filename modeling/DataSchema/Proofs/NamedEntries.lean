import Mathlib.Data.List.Nodup
import Mathlib.Data.List.Perm.Subperm
import DataSchema.Proofs.TextKeys

set_option autoImplicit false

/-!
# Entries with names

The keys of a mapping are distinct. If they are texts besides, then its entries are known by what is
found under each name: their number, tests of all of them, and what comes of putting others over
them depend on nothing else.

## Main definitions

* `DataSchema.Entries.KeysDistinct` — entries with distinct keys.
* `DataSchema.Entries.Named` — entries with distinct texts as keys.

## Main results

* `DataSchema.Entries.KeysDistinct.merge_self` — entries put over themselves.
* `DataSchema.Entries.Named.keys_perm`, `DataSchema.Entries.Named.all_eq` — entries with the same
  names have the same keys, and tests that agree name by name agree.
* `DataSchema.Entries.Named.get?_merge` — what is found after others have been put over entries.
-/

namespace DataSchema

/-! ## Entries with distinct keys -/

namespace Entries

/-- To set what is there changes nothing. -/
lemma put_self {es : Entries} {k v : Value} (h : es.get? k = some v) : es.put k v = es := by
  induction es with
  | nil => cases h
  | cons e es ih =>
    rw [get?_cons] at h
    rw [put]
    split at h
    next hkey =>
      obtain rfl := Option.some.inj h
      rw [if_pos hkey]
    next hkey => rw [if_neg hkey, ih h]

/-- To set what is not there adds it at the end. -/
lemma put_of_new {es : Entries} {k : Value} (h : ∀ e ∈ es, e.1.sameKey k = false) (v : Value) :
    es.put k v = es ++ [(k, v)] := by
  induction es with
  | nil => rfl
  | cons e es ih =>
    rw [put, if_neg (Bool.eq_false_iff.1 (h e List.mem_cons_self)),
      ih fun e' he' => h e' (List.mem_cons_of_mem e he'), List.cons_append]

/-- Entries under new keys are added at the end when they are put over others. -/
lemma merge_of_apart {es gs : Entries} (h : KeysApart (es ++ gs)) :
    Entries.merge es gs = es ++ gs := by
  induction gs generalizing es with
  | nil => exact (List.append_nil es).symm
  | cons g gs ih =>
    have hnew : ∀ e ∈ es, e.1.sameKey g.1 = false := fun e he =>
      (List.pairwise_append.1 h).2.2 e he g List.mem_cons_self
    rw [Entries.merge, List.foldl_cons, put_of_new hnew]
    have hnext : KeysApart ((es ++ [g]) ++ gs) := by rwa [← List.append_cons]
    exact (ih hnext).trans (List.append_cons ..).symm

/-- Entries in which no key stands twice, put over none, are these entries. -/
lemma nil_merge {fs : Entries} (h : KeysApart fs) : Entries.merge [] fs = fs := by
  rw [merge_of_apart (by rwa [List.nil_append]), List.nil_append]

/-- Every key is the same as itself and as no other, as keys of a mapping are. -/
structure KeysDistinct (es : Entries) : Prop where
  /-- No key stands twice. -/
  apart : KeysApart es
  /-- Every key is the same as itself. -/
  self : ∀ e ∈ es, e.1.sameKey e.1 = true

namespace KeysDistinct

variable {es fs : Entries}

/-- An entry is found under its key. -/
lemma get?_of_mem (h : es.KeysDistinct) {e : Value × Value} (he : e ∈ es) :
    es.get? e.1 = some e.2 := by
  obtain ⟨hapart, hself⟩ := h
  induction es with
  | nil => cases he
  | cons e' es ih =>
    obtain ⟨hhead, htail⟩ := List.pairwise_cons.1 hapart
    rw [get?_cons]
    rcases List.mem_cons.1 he with rfl | he
    · rw [if_pos (hself e List.mem_cons_self)]
    · rw [if_neg (Bool.eq_false_iff.1 (hhead e he)),
        ih he htail fun f hf => hself f (List.mem_cons_of_mem e' hf)]

/-- To put entries over others among which they are changes nothing. -/
lemma merge_of_subset (h : es.KeysDistinct) {gs : Entries} (hgs : ∀ g ∈ gs, g ∈ es) :
    Entries.merge es gs = es := by
  induction gs with
  | nil => rfl
  | cons g gs ih =>
    rw [Entries.merge, List.foldl_cons, put_self (h.get?_of_mem (hgs g List.mem_cons_self))]
    exact ih fun g' hg' => hgs g' (List.mem_cons_of_mem g hg')

/-- To put entries over themselves changes nothing. -/
lemma merge_self (h : es.KeysDistinct) : Entries.merge es es = es :=
  h.merge_of_subset fun _ hg => hg

/-- Entries with some of the keys, in the same order, have distinct keys too. -/
lemma sublist (h : es.KeysDistinct) (hkeys : (fs.map Prod.fst).Sublist (es.map Prod.fst)) :
    fs.KeysDistinct where
  apart := keysApart_iff_keys.2 ((keysApart_iff_keys.1 h.apart).sublist hkeys)
  self f hf := by
    obtain ⟨e, he, heq⟩ := List.mem_map.1 (hkeys.subset (List.mem_map_of_mem hf))
    rw [← heq]
    exact h.self e he

end KeysDistinct

end Entries

/-! ## Entries with names -/

/-- The keys of entries are distinct texts. -/
structure Entries.Named (es : Entries) : Prop where
  /-- Keys are texts. -/
  text : ∀ e ∈ es, ∃ name, e.1 = .str name
  /-- No key comes twice. -/
  nodup : (es.map Prod.fst).Nodup

namespace Entries.Named

variable {es fs : Entries} {name : String}

/-- No entries have no names. -/
lemma nil : Entries.Named [] := ⟨by simp, by simp⟩

/-- What comes after an entry has names too. -/
lemma tail {e : Value × Value} (h : Entries.Named (e :: es)) : Entries.Named es :=
  ⟨fun e' he' => h.text e' (List.mem_cons_of_mem e he'), (List.nodup_cons.1 h.nodup).2⟩

/-- Names are distinct keys. -/
lemma keysDistinct (h : es.Named) : es.KeysDistinct where
  apart := by
    refine keysApart_iff_keys.2 (h.nodup.imp_of_mem fun {k k'} hk hk' hne => ?_)
    obtain ⟨e, he, rfl⟩ := List.mem_map.1 hk'
    obtain ⟨name, hname⟩ := h.text e he
    rw [hname] at hne ⊢
    exact Bool.eq_false_iff.2 fun hsame => hne (Value.sameKey_str.1 hsame)
  self e he := by
    obtain ⟨name, hname⟩ := h.text e he
    rw [hname]
    exact Value.sameKey_str.2 rfl

/-- Distinct keys that are texts are names. -/
lemma of_keysDistinct (htext : ∀ e ∈ es, ∃ name, e.1 = .str name) (h : es.KeysDistinct) :
    es.Named where
  text := htext
  nodup := by
    refine (keysApart_iff_keys.1 h.apart).imp_of_mem fun {k k'} hk _ hne heq => ?_
    obtain ⟨e, he, rfl⟩ := List.mem_map.1 hk
    rw [← heq, h.self e he] at hne
    cases hne

/-- An entry is found under its name. -/
lemma get?_of_mem (h : es.Named) {e : Value × Value} (he : e ∈ es) : es.get? e.1 = some e.2 :=
  h.keysDistinct.get?_of_mem he

/-- A name is among the keys exactly when something is found under it. -/
lemma mem_keys (name : String) :
    .str name ∈ es.map Prod.fst ↔ (es.get? (.str name)).isSome = true := by
  rw [← Entries.has, Entries.has_iff, List.mem_map]
  simp only [Value.sameKey_str]

/-- Entries with the same names are in the same number. -/
lemma keys_perm (he : es.Named) (hf : fs.Named)
    (h : ∀ name, (es.get? (.str name)).isSome = (fs.get? (.str name)).isSome) :
    (es.map Prod.fst).Perm (fs.map Prod.fst) := by
  refine (List.perm_ext_iff_of_nodup he.nodup hf.nodup).2 fun k => ?_
  have htext : ∀ gs : Entries, gs.Named → k ∈ gs.map Prod.fst → ∃ name, k = .str name := by
    intro gs hg hk
    obtain ⟨e, hmem, rfl⟩ := List.mem_map.1 hk
    exact hg.text e hmem
  constructor
  · intro hk
    obtain ⟨name, rfl⟩ := htext es he hk
    rwa [mem_keys, ← h, ← mem_keys]
  · intro hk
    obtain ⟨name, rfl⟩ := htext fs hf hk
    rwa [mem_keys, h, ← mem_keys]

/-- What is asked of every entry under its name comes to the same for entries with the same
names. -/
lemma all_eq (he : es.Named) (hf : fs.Named)
    (hsame : ∀ name, (es.get? (.str name)).isSome = (fs.get? (.str name)).isSome)
    {p q : Value × Value → Bool}
    (h : ∀ name v r, es.get? (.str name) = some v → fs.get? (.str name) = some r →
      p (.str name, v) = q (.str name, r)) : es.all p = fs.all q := by
  rw [Bool.eq_iff_iff, List.all_eq_true, List.all_eq_true]
  constructor
  · rintro hall ⟨k, r⟩ hr
    obtain ⟨name, rfl⟩ := hf.text _ hr
    have hget := hf.get?_of_mem hr
    obtain ⟨v, hv⟩ := Option.isSome_iff_exists.1 ((hsame name).trans (by rw [hget]; rfl))
    rw [← h name v r hv hget]
    exact hall _ (Entries.mem_of_get? hv)
  · rintro hall ⟨k, v⟩ hv
    obtain ⟨name, rfl⟩ := he.text _ hv
    have hget := he.get?_of_mem hv
    obtain ⟨r, hr⟩ := Option.isSome_iff_exists.1 ((hsame name).symm.trans (by rw [hget]; rfl))
    rw [h name v r hget hr]
    exact hall _ (Entries.mem_of_get? hr)

/-- A key that equals one of the names is found as that name. -/
lemma find?_equal (h : es.Named) (k : Value) :
    (es.find? fun e => k.equal e.1).map Prod.snd = es.get? k := by
  rw [Entries.get?]
  rw [← List.head?_filter, ← List.head?_filter, List.filter_congr]
  intro e he
  obtain ⟨name, hname⟩ := h.text e he
  rw [hname, Bool.eq_iff_iff, Value.equal_str, Value.str_sameKey]

/-- Nothing is found under a key that is no text. -/
lemma get?_notText (h : es.Named) {k : Value} (hk : ∀ name, k ≠ .str name) : es.get? k = none := by
  rw [Entries.get?, Option.map_eq_none_iff, List.find?_eq_none]
  intro e he hkey
  obtain ⟨name, hname⟩ := h.text e he
  rw [hname, Value.str_sameKey] at hkey
  exact hk name hkey

/-- What is asked of the value under a key comes to the same for entries with the same names. -/
lemma any_get?_eq (he : es.Named) (hf : fs.Named)
    (hsame : ∀ name, (es.get? (.str name)).isSome = (fs.get? (.str name)).isSome)
    {p q : Value → Bool}
    (h : ∀ name v r, es.get? (.str name) = some v → fs.get? (.str name) = some r → p v = q r)
    (k : Value) : (es.get? k).any p = (fs.get? k).any q := by
  by_cases htext : ∃ name, k = .str name
  · obtain ⟨name, rfl⟩ := htext
    have hboth := hsame name
    cases hv : es.get? (.str name) with
    | none =>
      rw [hv] at hboth
      rw [Option.isNone_iff_eq_none.1 (Option.isSome_eq_false_iff.1 hboth.symm)]
      rfl
    | some v =>
      rw [hv] at hboth
      obtain ⟨r, hr⟩ := Option.isSome_iff_exists.1 hboth.symm
      rw [hr]
      exact h name v r hv hr
  · have hno : ∀ name, k ≠ .str name := fun name hk => htext ⟨name, hk⟩
    rw [he.get?_notText hno, hf.get?_notText hno]
    rfl

/-- Entries with the same names have the same keys. -/
lemma has_eq (he : es.Named) (hf : fs.Named)
    (h : ∀ name, (es.get? (.str name)).isSome = (fs.get? (.str name)).isSome) (k : Value) :
    es.has k = fs.has k := by
  unfold Entries.has
  by_cases htext : ∃ name, k = .str name
  · obtain ⟨name, rfl⟩ := htext
    exact h name
  · have hno : ∀ name, k ≠ .str name := fun name hk => htext ⟨name, hk⟩
    rw [he.get?_notText hno, hf.get?_notText hno]

end Entries.Named

/-! ## Entries put over each other -/

namespace Entries

/-- What is found under a name after a value has been set. -/
lemma get?_put (es : Entries) (n m : String) (v : Value) :
    (es.put (.str n) v).get? (.str m) = if n = m then some v else es.get? (.str m) := by
  induction es with
  | nil =>
    rw [put, get?_cons]
    simp only [Value.sameKey_str, Value.str.injEq]
  | cons e es ih =>
    rw [put]
    by_cases hkey : e.1.sameKey (.str n) = true
    · rw [if_pos hkey, get?_cons, get?_cons]
      rw [Value.sameKey_str] at hkey
      simp only [hkey, Value.sameKey_str, Value.str.injEq]
      split <;> rfl
    · rw [if_neg hkey, get?_cons, get?_cons, ih]
      by_cases hnm : n = m
      · subst hnm
        rw [if_pos rfl, if_pos rfl, if_neg hkey]
      · rw [if_neg hnm, if_neg hnm]

/-- The keys after a value has been set: those before, or one more. -/
lemma keys_put (es : Entries) (n : String) (v : Value) :
    .str n ∈ es.map Prod.fst ∧ (es.put (.str n) v).map Prod.fst = es.map Prod.fst ∨
      .str n ∉ es.map Prod.fst ∧
        (es.put (.str n) v).map Prod.fst = es.map Prod.fst ++ [.str n] := by
  induction es with
  | nil => exact .inr ⟨List.not_mem_nil, rfl⟩
  | cons e es ih =>
    rw [put]
    by_cases hkey : e.1.sameKey (.str n) = true
    · rw [if_pos hkey]
      exact .inl ⟨by simp [Value.sameKey_str.1 hkey], rfl⟩
    · have hne : Value.str n ≠ e.1 := fun heq => hkey (Value.sameKey_str.2 heq.symm)
      rw [if_neg hkey, List.map_cons, List.map_cons]
      rcases ih with ⟨hmem, hkeys⟩ | ⟨hmem, hkeys⟩
      · exact .inl ⟨List.mem_cons_of_mem _ hmem, by rw [hkeys]⟩
      · exact .inr ⟨fun h => (List.mem_cons.1 h).elim hne hmem, by rw [hkeys, List.cons_append]⟩

/-- To set a name that is not there adds it at the end. -/
lemma put_eq_append {es : Entries} {n : String} (h : .str n ∉ es.map Prod.fst) (v : Value) :
    es.put (.str n) v = es ++ [(.str n, v)] := by
  refine put_of_new (fun e he => ?_) v
  rw [Bool.eq_false_iff, Ne, Value.sameKey_str]
  exact fun hkey => h (List.mem_map.2 ⟨e, he, hkey⟩)

namespace Named

variable {es fs : Entries}

/-- Entries with names have names after a value has been set. -/
lemma put (h : es.Named) (n : String) (v : Value) : (Entries.put es (.str n) v).Named := by
  have htext : ∀ k ∈ es.map Prod.fst, ∃ name, k = .str name := by
    intro k hk
    obtain ⟨e, he, rfl⟩ := List.mem_map.1 hk
    exact h.text e he
  rcases keys_put es n v with ⟨-, hkeys⟩ | ⟨hmem, hkeys⟩
  · refine ⟨fun e he => htext e.1 ?_, hkeys ▸ h.nodup⟩
    rw [← hkeys]
    exact List.mem_map_of_mem he
  · refine ⟨fun e he => ?_, ?_⟩
    · have hkey : e.1 ∈ (Entries.put es (.str n) v).map Prod.fst := List.mem_map_of_mem he
      rw [hkeys, List.mem_append, List.mem_singleton] at hkey
      exact hkey.elim (htext e.1) fun heq => ⟨n, heq⟩
    · rw [hkeys]
      refine List.nodup_append.2 ⟨h.nodup, List.nodup_cons.2 ⟨List.not_mem_nil, .nil⟩, ?_⟩
      intro k hk k' hk' heq
      rw [heq, List.mem_singleton.1 hk'] at hk
      exact hmem hk

/-- Entries with names have names after others have been put over them. -/
lemma merge (he : es.Named) (hf : fs.Named) : (Entries.merge es fs).Named := by
  induction fs generalizing es with
  | nil => exact he
  | cons f fs ih =>
    obtain ⟨n, hn⟩ := hf.text f List.mem_cons_self
    rw [Entries.merge, List.foldl_cons, hn]
    exact ih (he.put n f.2) hf.tail

/-- What is found under a name after others have been put over entries. -/
lemma get?_merge (hf : fs.Named) (es : Entries) (m : String) :
    (Entries.merge es fs).get? (.str m) = (fs.get? (.str m)).or (es.get? (.str m)) := by
  induction fs generalizing es with
  | nil => rfl
  | cons f fs ih =>
    obtain ⟨n, hn⟩ := hf.text f List.mem_cons_self
    have hrest : (Entries.merge es (f :: fs)).get? (.str m) = (Entries.get? fs (.str m)).or
        (if n = m then some f.2 else es.get? (.str m)) := by
      rw [Entries.merge, List.foldl_cons, hn, ← get?_put]
      exact ih hf.tail _
    rw [hrest, get?_cons]
    simp only [hn, Value.sameKey_str, Value.str.injEq]
    by_cases hnm : n = m
    · have hnone : Entries.get? fs (.str m) = none := by
        refine get?_eq_none fun e he heq => ?_
        rw [← hnm, ← hn] at heq
        exact (List.nodup_cons.1 hf.nodup).1 (heq ▸ List.mem_map_of_mem he)
      rw [hnone, if_pos hnm, if_pos hnm]
      rfl
    · rw [if_neg hnm, if_neg hnm]

/-- Entries with names among those of others are no more than these. -/
lemma length_le (hf : fs.Named)
    (h : ∀ name, (fs.get? (.str name)).isSome = true → (es.get? (.str name)).isSome = true) :
    fs.length ≤ es.length := by
  have hsub : fs.map Prod.fst ⊆ es.map Prod.fst := by
    intro k hk
    obtain ⟨f, hmem, rfl⟩ := List.mem_map.1 hk
    obtain ⟨name, hname⟩ := hf.text f hmem
    have hget := hf.get?_of_mem hmem
    rw [hname] at hget ⊢
    exact (mem_keys name).2 (h name (by rw [hget]; rfl))
  simpa using (List.subperm_of_subset hf.nodup hsub).length_le

/-- To put entries over themselves changes nothing. -/
lemma merge_self (h : es.Named) : Entries.merge es es = es := h.keysDistinct.merge_self

/-- Entries with names put over none are these entries. -/
lemma nil_merge (h : es.Named) : Entries.merge [] es = es := Entries.nil_merge h.keysDistinct.apart

end Named

end Entries

end DataSchema
