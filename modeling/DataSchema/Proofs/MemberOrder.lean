import Mathlib
import DataSchema.Proofs.Alternatives
import DataSchema.Proofs.Enclosure
import DataSchema.Proofs.Overlays
import DataSchema.Proofs.Records

set_option autoImplicit false

/-!
# Members that share no names commute

A member that takes the properties it declares, and nothing else, reads those and which keys there
are, and writes no others. If no two members declare a property of the same name, then each of them
makes of the object what it would make of it alone, whatever the members before it have written, and
in every order the parts make the same entries together. So the order of such members is of no
consequence for the cast but for the order of the entries in its result.

## Main definitions

* `DataSchema.Entries.SameButOrder`, `DataSchema.Value.SameButOrder` — entries and values that are
  the same but for the order of entries.
* `DataSchema.Keywords.TakesDeclared` — schemas that take the properties they declare.
* `DataSchema.Casting.TakesNames` — nodes that read and write certain names only.

## Main results

* `DataSchema.Entries.foldl_merge_perm` — parts under disjoint names, put over entries in any order.
* `DataSchema.Casting.castMembers_outcome_ok` — members that share no names make their parts alone.
* `DataSchema.disjoint_members_commute` — casts of whole values.
-/

namespace DataSchema

/-! ## Entries but for their order -/

namespace Entries

/-- Entries are the same but for their order, and under each name the same is found first. -/
structure SameButOrder (es fs : Entries) : Prop where
  /-- The entries are the same. -/
  perm : es.Perm fs
  /-- The same is found under each name. -/
  found : ∀ name, es.get? (.str name) = fs.get? (.str name)

/-- Entries are under some names: their keys are among these. -/
def IsUnder (es : Entries) (names : Set String) : Prop :=
  ∀ e ∈ es, ∃ name ∈ names, e.1 = .str name

/-- Entries of which the last are under some names are so themselves. -/
lemma IsUnder.tail {e : Value × Value} {es : Entries} {names : Set String}
    (h : IsUnder (e :: es) names) : es.IsUnder names :=
  fun e' he' => h e' (List.mem_cons_of_mem e he')

/-- Entries are put over others one after the other. -/
lemma merge_cons (es : Entries) (f : Value × Value) (fs : Entries) :
    merge es (f :: fs) = merge (es.put f.1 f.2) fs := rfl

/-- To set what is there replaces the entry that is found first, and leaves the others. -/
lemma put_perm_cons {es : Entries} {n : String} {w : Value} (h : es.get? (.str n) = some w) :
    ∃ rest, es.Perm ((.str n, w) :: rest) ∧
      ∀ v, (es.put (.str n) v).Perm ((.str n, v) :: rest) := by
  induction es with
  | nil => cases h
  | cons e es ih =>
    rw [get?_cons] at h
    by_cases hkey : e.1.sameKey (.str n) = true
    · rw [if_pos hkey] at h
      obtain ⟨k, u⟩ := e
      obtain rfl := Option.some.inj h
      obtain rfl : k = .str n := Value.sameKey_str.1 hkey
      exact ⟨es, .refl _, fun v => by rw [put, if_pos hkey]⟩
    · rw [if_neg hkey] at h
      obtain ⟨rest, hrest, hput⟩ := ih h
      refine ⟨e :: rest, (hrest.cons e).trans (.swap ..), fun v => ?_⟩
      rw [put, if_neg hkey]
      exact ((hput v).cons e).trans (.swap ..)

namespace SameButOrder

variable {es fs gs : Entries} {n m : String} {v w : Value}

/-- Entries are the same as themselves. -/
lemma refl (es : Entries) : es.SameButOrder es := ⟨.refl es, fun _ => rfl⟩

/-- The relation goes both ways. -/
lemma symm (h : es.SameButOrder fs) : fs.SameButOrder es :=
  ⟨h.perm.symm, fun name => (h.found name).symm⟩

/-- Entries that are the same as a third are the same. -/
lemma trans (h : es.SameButOrder fs) (h' : fs.SameButOrder gs) : es.SameButOrder gs :=
  ⟨h.perm.trans h'.perm, fun name => (h.found name).trans (h'.found name)⟩

/-- The same keys are there. -/
lemma has_eq (h : es.SameButOrder fs) (k : Value) : es.has k = fs.has k := by
  rw [Bool.eq_iff_iff, has_iff, has_iff]
  simp only [h.perm.mem_iff]

/-- Setting a value keeps entries the same. -/
lemma put (h : es.SameButOrder fs) (n : String) (v : Value) :
    (es.put (.str n) v).SameButOrder (fs.put (.str n) v) where
  perm := by
    cases hget : es.get? (.str n) with
    | some w =>
      obtain ⟨rest, hrest, hput⟩ := put_perm_cons hget
      obtain ⟨rest', hrest', hput'⟩ := put_perm_cons ((h.found n).symm.trans hget)
      have hsame : rest.Perm rest' := (List.perm_cons _).1 (hrest.symm.trans (h.perm.trans hrest'))
      exact (hput v).trans ((hsame.cons _).trans (hput' v).symm)
    | none =>
      have hnew : ∀ gs : Entries, gs.get? (.str n) = none → .str n ∉ gs.map Prod.fst := by
        intro gs hgs hmem
        rw [Named.mem_keys, hgs] at hmem
        cases hmem
      rw [put_eq_append (hnew es hget), put_eq_append (hnew fs ((h.found n).symm.trans hget))]
      exact h.perm.append_right _
  found name := by rw [get?_put, get?_put, h.found]

/-- Values set under different names in either order make the same entries.

**Proof sketch.** Induction on the entries. Only where neither name is there do the orders make a
difference: the two values are added at the end, in the order in which they are set. -/
lemma put_put_perm (hne : n ≠ m) (es : Entries) (v w : Value) :
    ((es.put (.str n) v).put (.str m) w).Perm ((es.put (.str m) w).put (.str n) v) := by
  have hother : ¬ (Value.str n).sameKey (.str m) = true := by
    rw [Value.sameKey_str, Value.str.injEq]
    exact hne
  have hother' : ¬ (Value.str m).sameKey (.str n) = true := by
    rw [Value.sameKey_str, Value.str.injEq]
    exact hne.symm
  induction es with
  | nil =>
    simp only [Entries.put, if_neg hother, if_neg hother']
    exact .swap ..
  | cons e es ih =>
    by_cases hn : e.1.sameKey (.str n) = true
    · have hm : ¬ e.1.sameKey (.str m) = true := by rwa [Value.sameKey_str.1 hn]
      simp only [Entries.put, if_pos hn, if_neg hm]
      exact .refl _
    · by_cases hm : e.1.sameKey (.str m) = true
      · simp only [Entries.put, if_neg hn, if_pos hm]
        exact .refl _
      · simp only [Entries.put, if_neg hn, if_neg hm]
        exact ih.cons e

/-- Values under different names can be set in either order. -/
lemma put_comm (hne : n ≠ m) (es : Entries) (v w : Value) :
    ((es.put (.str n) v).put (.str m) w).SameButOrder ((es.put (.str m) w).put (.str n) v) where
  perm := put_put_perm hne es v w
  found name := by
    simp only [get?_put]
    by_cases hn : n = name
    · rw [if_pos hn, if_pos hn, if_neg fun hm => hne (hn.trans hm.symm)]
    · rw [if_neg hn, if_neg hn]

/-- The same entries put over entries keep them the same. -/
lemma merge {names : Set String} (hgs : gs.IsUnder names) (h : es.SameButOrder fs) :
    (Entries.merge es gs).SameButOrder (Entries.merge fs gs) := by
  induction gs generalizing es fs with
  | nil => exact h
  | cons g gs ih =>
    obtain ⟨n, -, hn⟩ := hgs g List.mem_cons_self
    rw [merge_cons, merge_cons, hn]
    exact ih hgs.tail (h.put n g.2)

/-- A value can be set before or after entries under other names are put over. -/
lemma merge_put {names : Set String} (hgs : gs.IsUnder names) (hn : n ∉ names) (es : Entries)
    (v : Value) :
    (Entries.merge (es.put (.str n) v) gs).SameButOrder ((Entries.merge es gs).put (.str n) v) := by
  induction gs generalizing es with
  | nil => exact .refl _
  | cons g gs ih =>
    obtain ⟨m, hm, hg⟩ := hgs g List.mem_cons_self
    have hne : n ≠ m := fun heq => hn (heq ▸ hm)
    rw [merge_cons, merge_cons, hg]
    exact ((put_comm hne es v g.2).merge hgs.tail).trans (ih hgs.tail _)

/-- Entries under different names can be put over others in either order. -/
lemma merge_comm {names names' : Set String} (hfs : fs.IsUnder names) (hgs : gs.IsUnder names')
    (hdisjoint : Disjoint names names') (es : Entries) :
    (Entries.merge (Entries.merge es fs) gs).SameButOrder
      (Entries.merge (Entries.merge es gs) fs) := by
  induction fs generalizing es with
  | nil => exact .refl _
  | cons f fs ih =>
    obtain ⟨n, hn, hf⟩ := hfs f List.mem_cons_self
    have hother : n ∉ names' := Set.disjoint_left.1 hdisjoint hn
    rw [merge_cons, merge_cons, hf]
    exact (ih hfs.tail _).trans ((merge_put hgs hother es f.2).merge hfs.tail)

end SameButOrder

/-- Parts that are put over entries one after the other keep these the same. -/
lemma SameButOrder.foldl_merge {α : Type} {xs : List α} {part : α → Entries}
    {names : α → Set String} (hparts : ∀ x ∈ xs, (part x).IsUnder (names x)) {es fs : Entries}
    (h : es.SameButOrder fs) :
    (xs.foldl (fun acc x => Entries.merge acc (part x)) es).SameButOrder
      (xs.foldl (fun acc x => Entries.merge acc (part x)) fs) := by
  induction xs generalizing es fs with
  | nil => exact h
  | cons x xs ih =>
    exact ih (fun y hy => hparts y (List.mem_cons_of_mem x hy))
      (h.merge (hparts x List.mem_cons_self))

/-- **Parts under disjoint names** make the same entries together in every order. -/
lemma foldl_merge_perm {α : Type} {xs ys : List α} {part : α → Entries} {names : α → Set String}
    (hperm : xs.Perm ys) (hparts : ∀ x ∈ xs, (part x).IsUnder (names x))
    (hdisjoint : xs.Pairwise fun x y => Disjoint (names x) (names y)) {es fs : Entries}
    (h : es.SameButOrder fs) :
    (xs.foldl (fun acc x => merge acc (part x)) es).SameButOrder
      (ys.foldl (fun acc x => merge acc (part x)) fs) := by
  induction hperm generalizing es fs with
  | nil => exact h
  | cons x _ ih =>
    rw [List.pairwise_cons] at hdisjoint
    exact ih (fun y hy => hparts y (List.mem_cons_of_mem x hy)) hdisjoint.2
      (h.merge (hparts x List.mem_cons_self))
  | swap x y zs =>
    have hx := hparts x (by simp)
    have hy := hparts y (by simp)
    have hxy : Disjoint (names y) (names x) := (List.pairwise_cons.1 hdisjoint).1 x (by simp)
    simp only [List.foldl_cons]
    refine .foldl_merge (fun z hz => hparts z (by simp [hz])) ?_
    exact ((h.merge hy).merge hx).trans (.merge_comm hy hx hxy fs)
  | trans hperm _ ih ih' =>
    have hsymm : ∀ {x y : α}, Disjoint (names x) (names y) → Disjoint (names y) (names x) :=
      fun h => h.symm
    exact (ih hparts hdisjoint (.refl es)).trans
      (ih' (fun y hy => hparts y (hperm.mem_iff.2 hy)) ((hperm.pairwise_iff hsymm).1 hdisjoint) h)

/-- Entries that are put over others leave what is found under other names. -/
lemma get?_merge_of_notMem {gs : Entries} {names : Set String} (hgs : gs.IsUnder names)
    {name : String} (hname : name ∉ names) (es : Entries) :
    (merge es gs).get? (.str name) = es.get? (.str name) := by
  induction gs generalizing es with
  | nil => rfl
  | cons g gs ih =>
    obtain ⟨n, hn, hg⟩ := hgs g List.mem_cons_self
    have hne : n ≠ name := fun heq => hname (heq ▸ hn)
    rw [merge_cons, hg, ih hgs.tail, get?_put, if_neg hne]

/-- Entries that are put over others under keys of these leave the keys as they are. -/
lemma keys_merge_of_has {gs : Entries} {names : Set String} (hgs : gs.IsUnder names) {es : Entries}
    (hhas : ∀ g ∈ gs, es.has g.1 = true) : (merge es gs).map Prod.fst = es.map Prod.fst := by
  induction gs generalizing es with
  | nil => rfl
  | cons g gs ih =>
    obtain ⟨n, -, hg⟩ := hgs g List.mem_cons_self
    have hmem : .str n ∈ es.map Prod.fst := by
      rw [Named.mem_keys, ← hg]
      exact hhas g List.mem_cons_self
    have hkeys : (es.put (.str n) g.2).map Prod.fst = es.map Prod.fst := by
      rcases keys_put es n g.2 with ⟨-, hkeys⟩ | ⟨hnot, -⟩
      · exact hkeys
      · exact absurd hmem hnot
    rw [merge_cons, hg]
    refine (ih hgs.tail fun g' hg' => ?_).trans hkeys
    rw [has_of_keys hkeys]
    exact hhas g' (List.mem_cons_of_mem g hg')

end Entries

/-- Two values are the same but for the order of the entries, or of the fields that a record may
have in any number. -/
inductive Value.SameButOrder : Value → Value → Prop
  /-- Values that are the same. -/
  | same (v : Value) : SameButOrder v v
  /-- Mappings with the same entries. -/
  | mapping {es fs : Entries} : es.SameButOrder fs → SameButOrder (.mapping es) (.mapping fs)
  /-- Records with the same fields. -/
  | openRecord (name : String) {fs gs : List (String × Value)} :
    fs.Perm gs → SameButOrder (.openRecord name fs) (.openRecord name gs)

/-- The relation goes both ways. -/
lemma Value.SameButOrder.symm {v w : Value} (h : v.SameButOrder w) : w.SameButOrder v := by
  cases h with
  | same => exact .same v
  | mapping h => exact .mapping h.symm
  | openRecord name h => exact .openRecord name h.symm

/-- Mappings with the same entries are seen alike by every schema. -/
lemma Keywords.SeesAlike.of_order {s : Schema} {es fs : Entries} (h : es.SameButOrder fs) :
    s.SeesAlike es fs where
  enum members _ := by
    have hequal : (Value.mapping es).jsonEqual = (Value.mapping fs).jsonEqual := by
      funext u
      cases u with
      | mapping us =>
        simp only [Value.jsonEqual, Value.jsonEqualEntries_eq]
        rw [h.perm.length_eq, h.perm.all_eq]
      | _ => rfl
    rw [hequal]
  declared p _ := h.found p.1
  required n _ := h.has_eq n
  undeclared := .inr (.inr (h.perm.filter _))
  few := by rw [h.perm.length_eq]
  many := by rw [h.perm.length_eq]

namespace RecordType

/-- The keys of entries are texts if the first is one and the others are. -/
lemma textEntries_cons {e : Value × Value} {es : Entries} {given : List (String × Value)} :
    textEntries? (e :: es) = some given ↔
      ∃ n v rest, e = (.str n, v) ∧ textEntries? es = some rest ∧ given = (n, v) :: rest := by
  obtain ⟨k, v⟩ := e
  cases k with
  | str n =>
    rw [textEntries?, Option.map_eq_some_iff]
    constructor
    · rintro ⟨rest, hrest, rfl⟩
      exact ⟨n, v, rest, rfl, hrest, rfl⟩
    · rintro ⟨n, v, rest, heq, hrest, rfl⟩
      cases heq
      exact ⟨rest, hrest, rfl⟩
  | _ => simp [textEntries?]

/-- The texts among the keys of the same entries are the same. -/
lemma textEntries_perm {es fs : Entries} (h : es.Perm fs) {given : List (String × Value)}
    (hgiven : textEntries? es = some given) :
    ∃ given', textEntries? fs = some given' ∧ given.Perm given' := by
  induction h generalizing given with
  | nil => exact ⟨given, hgiven, .refl _⟩
  | cons e _ ih =>
    obtain ⟨n, v, rest, rfl, hrest, rfl⟩ := textEntries_cons.1 hgiven
    obtain ⟨rest', hrest', hperm⟩ := ih hrest
    exact ⟨(n, v) :: rest', textEntries_cons.2 ⟨n, v, rest', rfl, hrest', rfl⟩, hperm.cons _⟩
  | swap e f es =>
    obtain ⟨n, v, rest, rfl, hrest, rfl⟩ := textEntries_cons.1 hgiven
    obtain ⟨m, w, rest, rfl, hothers, rfl⟩ := textEntries_cons.1 hrest
    have hf := textEntries_cons.2 ⟨n, v, rest, rfl, hothers, rfl⟩
    exact ⟨(m, w) :: (n, v) :: rest, textEntries_cons.2 ⟨m, w, _, rfl, hf, rfl⟩, .swap ..⟩
  | trans _ _ ih ih' =>
    obtain ⟨given', hgiven', hperm⟩ := ih hgiven
    obtain ⟨given'', hgiven'', hperm'⟩ := ih' hgiven'
    exact ⟨given'', hgiven'', hperm.trans hperm'⟩

/-- A declared type takes the same of entries that are the same. -/
lemma accepted_order (t : RecordType) {es fs : Entries} (h : es.SameButOrder fs) :
    (t.accepted es).SameButOrder (t.accepted fs) := by
  cases t with
  | declared name fields =>
    refine ⟨h.perm.filter _, fun name => ?_⟩
    show Entries.get? (es.filter fun e => takes fields e.1) (.str name) =
      Entries.get? (fs.filter fun e => takes fields e.1) (.str name)
    cases htakes : takes fields (.str name) with
    | true =>
      rw [Entries.get?_filter fun e _ hkey => hkey ▸ htakes,
        Entries.get?_filter fun e _ hkey => hkey ▸ htakes, h.found]
    | false =>
      have hnone : ∀ gs : Entries,
          Entries.get? (gs.filter fun e => takes fields e.1) (.str name) = none := by
        refine fun gs => Entries.get?_eq_none fun e he hkey => ?_
        rw [List.mem_filter, hkey, htakes] at he
        exact Bool.false_ne_true he.2
      rw [hnone, hnone]
  | _ => exact h

/-- **A record is built of the same entries** whatever their order. -/
lemma build_order {t : RecordType} {es fs : Entries} (h : es.SameButOrder fs) {r : Value}
    (hbuild : t.build (t.accepted es) = .ok r) :
    ∃ r', t.build (t.accepted fs) = .ok r' ∧ r.SameButOrder r' := by
  have haccepted := t.accepted_order h
  unfold build at hbuild ⊢
  cases hgiven : textEntries? (t.accepted es) with
  | none =>
    rw [hgiven] at hbuild
    cases hbuild
  | some given =>
    obtain ⟨given', hgiven', hperm⟩ := textEntries_perm haccepted.perm hgiven
    rw [hgiven] at hbuild
    rw [hgiven']
    cases t with
    | mapping => exact ⟨_, rfl, Except.ok.inj hbuild ▸ .mapping haccepted⟩
    | any name => exact ⟨_, rfl, Except.ok.inj hbuild ▸ .openRecord name hperm⟩
    | list =>
      dsimp only at hbuild ⊢
      rw [hperm.isEmpty_eq] at hbuild
      exact ⟨r, hbuild, .same r⟩
    | declared name fields =>
      have hlookup : ∀ n, given.lookup n = given'.lookup n := fun n => by
        rw [lookup_textEntries hgiven, lookup_textEntries hgiven', haccepted.found]
      dsimp only [buildDeclared] at hbuild ⊢
      refine ⟨r, ?_, .same r⟩
      split at hbuild
      next => cases hbuild
      next hnone =>
        have hnone' : (given'.find? fun g => !fields.any fun f => f.settable && f.name == g.1) =
            none := by
          rw [List.find?_eq_none] at hnone ⊢
          exact fun g hg => hnone g (hperm.mem_iff.2 hg)
        rw [hnone']
        simpa only [hlookup] using hbuild

end RecordType

/-! ## Schemas that take the properties they declare -/

/-- A schema takes the properties it declares: it casts objects by its own shape, and makes nothing
of undeclared properties. -/
structure Keywords.TakesDeclared (s : Schema) : Prop extends s.IsPlain where
  /-- An object is asked for. -/
  type : s.type = some .object
  /-- Properties are declared. -/
  properties : s.properties.isSome = true
  /-- Nothing is said of undeclared properties. -/
  additional : s.additional = .unspecified

/-- The names of the properties that the schema declares that a node stands for. -/
def Registry.takenNames (r : Registry) (node : Node) : Set String :=
  {name | ∃ s, r.Resolves node s ∧ name ∈ s.names}

/-- What a node declares is what the schema declares that it stands for. -/
lemma Registry.takenNames_eq {r : Registry} {node : Node} {s : Schema} (h : r.Resolves node s) :
    r.takenNames node = s.names := by
  ext name
  constructor
  · rintro ⟨t, ht, hname⟩
    rwa [h.unique ht]
  · exact fun hname => ⟨s, h, hname⟩

namespace Casting

/-- A node takes names: what it makes of an object depends on the keys that are there and on what is
found under its names, and is an object with some of these. -/
structure TakesNames (child : NodeCaster) (path : Path) (active : List String)
    (names : Node → Set String) (c : Node) : Prop where
  /-- Nothing else is read. -/
  reads : ∀ es fs : Entries, (∀ k, es.has k = fs.has k) →
    (∀ name ∈ names c, es.get? (.str name) = fs.get? (.str name)) →
    child c (.mapping es) path active = child c (.mapping fs) path active
  /-- Nothing else is written. -/
  writes : ∀ (es : Entries) (r : Value), (child c (.mapping es) path active).outcome = .ok r →
    ∃ part : Entries, r = .mapping part ∧ part.IsUnder (names c) ∧ ∀ e ∈ part, es.has e.1 = true

section

variable {context : CastContext} {child : NodeCaster} {check : NodeChecker} {s : Schema}
  {es fs : Entries} {path : Path} {active : List String}

/-- Which names are missing depends on the keys that are there. -/
lemma missingNames_congr (h : ∀ k, es.has k = fs.has k) (names : List Value) :
    missingNames es names = missingNames fs names := by
  induction names with
  | nil => rfl
  | cons n names ih => rw [missingNames, missingNames, ih, h n]

/-- What is made of declared properties depends on what is found under their names. -/
lemma castDeclared_data {ps : List (String × Node)}
    (h : ∀ p ∈ ps, es.get? (.str p.1) = fs.get? (.str p.1)) :
    castDeclared child es path active ps = castDeclared child fs path active ps := by
  induction ps with
  | nil => rfl
  | cons p ps ih =>
    unfold castDeclared
    rw [h p List.mem_cons_self, ih fun q hq => h q (List.mem_cons_of_mem p hq)]

/-- A schema that takes the properties it declares reads nothing else. -/
lemma castSchema_reads (hs : s.TakesDeclared) (hkeys : ∀ k, es.has k = fs.has k)
    (hsame : ∀ name ∈ s.names, es.get? (.str name) = fs.get? (.str name)) :
    castSchema context child check s (.mapping es) path active =
      castSchema context child check s (.mapping fs) path active := by
  have hobject : castObject child s (.mapping es) path active =
      castObject child s (.mapping fs) path active := by
    have hnames : requireNames s es path = requireNames s fs path := by
      rw [requireNames, requireNames, missingNames_congr hkeys]
    have hextra : ∀ extra, refuseExtra s extra path = pure () := fun extra => by
      unfold refuseExtra
      rw [hs.additional]
    have hnone : ∀ extra, castExtra child s extra path active = pure [] := fun extra => by
      rw [castExtra, hs.additional]
      simp only [Option.isNone_eq_false_iff.2 hs.properties, Bool.false_eq_true, if_false]
    have hdeclared : castDeclared child es path active s.declared =
        castDeclared child fs path active s.declared :=
      castDeclared_data fun p hp => hsame p.1 (Keywords.mem_names.2 ⟨p.2, hp⟩)
    simp only [castObject, Value.objectView?, hnames, hextra, hnone, hdeclared]
  have hown : castOwn child s (.mapping es) path active =
      castOwn child s (.mapping fs) path active := by
    have hcasts : ∀ gs : Entries, castsObject s (.mapping gs) = true := fun gs => by
      rw [castsObject, hs.type]
    rw [castOwn, castOwn, if_pos (hcasts es), if_pos (hcasts fs), hobject]
  obtain ⟨hmembers, -, -⟩ := Keywords.isComposed_eq_false.1 hs.composed
  unfold castSchema castComposed
  simp only [dispatch_eq_none hs.discriminator, castAllOf_eq_pure hmembers,
    castAlternative_eq_pure (Bool.or_eq_false_iff.1 hs.composed).2, hown, Value.isNull]

/-- A schema that takes the properties it declares makes an object with some of these. -/
lemma castSchema_writes (hs : s.TakesDeclared) {r : Value}
    (h : (castSchema context child check s (.mapping es) path active).outcome = .ok r) :
    ∃ part : Entries, r = .mapping part ∧ part.IsUnder s.names ∧
      ∀ e ∈ part, es.has e.1 = true := by
  have hown := castSchema_plain hs.toIsPlain rfl h
  have hobject : castsObject s (.mapping es) = true := by rw [castsObject, hs.type]
  rw [castOwn, if_pos hobject] at hown
  obtain ⟨data, declared, others, hdata, -, -, hdeclared, hothers, -, -, rfl⟩ :=
    castObject_outcome_ok.1 hown
  obtain rfl := Option.some.inj hdata
  have hnone : others = [] := by
    have hkeys := castExtra_keys hothers
    rw [keepsExtra, hs.additional] at hkeys
    simp only [Option.isNone_eq_false_iff.2 hs.properties, Bool.false_eq_true, if_false] at hkeys
    exact List.map_eq_nil_iff.1 hkeys
  refine ⟨declared ++ others, rfl, ?_, ?_⟩
  · rw [hnone, List.append_nil]
    intro e he
    obtain ⟨p, hp, hkey, -⟩ := castDeclared_keys hdeclared e he
    exact ⟨p.1, Keywords.mem_names.2 ⟨p.2, hp⟩, hkey⟩
  · rw [hnone, List.append_nil]
    intro e he
    obtain ⟨p, -, hkey, hthere⟩ := castDeclared_keys hdeclared e he
    rw [hkey]
    exact hthere

/-- A node that stands for a schema that takes the properties it declares reads no others.

**Proof sketch.** Induction on how the node comes to stand for the schema. -/
lemma castNode_reads {c : Node} (hc : context.registry.Resolves c s) (hs : s.TakesDeclared)
    (hkeys : ∀ k, es.has k = fs.has k)
    (hsame : ∀ name ∈ s.names, es.get? (.str name) = fs.get? (.str name)) (depth : Nat)
    (path : Path) (active : List String) :
    castNode context depth c (.mapping es) path active =
      castNode context depth c (.mapping fs) path active := by
  induction hc generalizing depth active with
  | schema s =>
    cases depth with
    | zero => rfl
    | succ depth => exact castSchema_reads hs hkeys hsame
  | @ref name target s hget _ ih =>
    cases depth with
    | zero => rfl
    | succ depth =>
      cases target with
      | schema t =>
        rw [castNode_named hget, castNode_named hget]
        exact ih hs hsame _ _
      | ref other =>
        rw [castNode_link hget, castNode_link hget]
        exact ih hs hsame _ _

/-- A node that stands for a schema that takes the properties it declares takes their names. -/
lemma castNode_takesNames {c : Node} (hc : context.registry.Resolves c s) (hs : s.TakesDeclared)
    (depth : Nat) (path : Path) (active : List String) :
    TakesNames (castNode context depth) path active context.registry.takenNames c where
  reads es fs hkeys hsame := by
    rw [Registry.takenNames_eq hc] at hsame
    exact castNode_reads hc hs hkeys hsame depth path active
  writes es r h := by
    obtain ⟨left, opened, -, hcast⟩ := castNode_resolves hc h
    rw [Registry.takenNames_eq hc]
    exact castSchema_writes hs hcast

end

/-! ## Members that share no names -/

/-- The entries that a node makes of an object; none if it does not cast it. -/
def partOf (child : NodeCaster) (path : Path) (active : List String) (source : Entries)
    (c : Node) : Entries :=
  match (child c (.mapping source) path active).outcome with
  | .ok r => r.entries
  | .error _ => []

section

variable {child : NodeCaster} {path : Path} {active : List String} {names : Node → Set String}

/-- What a node makes that takes names is under these. -/
lemma partOf_isUnder {c : Node} (hc : TakesNames child path active names c) (source : Entries) :
    (partOf child path active source c).IsUnder (names c) := by
  unfold partOf
  split
  next r hr =>
    obtain ⟨part, rfl, hunder, -⟩ := hc.writes source r hr
    exact hunder
  next => exact fun e he => absurd he List.not_mem_nil

/-- **What shares no names is not seen**: a node makes the same of an object with the part put over
it that another has made. -/
lemma TakesNames.frame {c d : Node} (hc : TakesNames child path active names c)
    (hd : TakesNames child path active names d) (hdisjoint : Disjoint (names c) (names d))
    {source part : Entries}
    (hpart : (child c (.mapping source) path active).outcome = .ok (.mapping part)) :
    child d (.mapping (Entries.merge source part)) path active =
      child d (.mapping source) path active := by
  obtain ⟨_, heq, hunder, hhas⟩ := hc.writes source _ hpart
  obtain rfl := Value.mapping.inj heq
  refine hd.reads _ _ (fun k => ?_) fun name hname => ?_
  · rw [Bool.eq_iff_iff]
    exact Entries.has_of_keys (Entries.keys_merge_of_has hunder hhas)
  · exact Entries.get?_merge_of_notMem hunder (Set.disjoint_right.1 hdisjoint hname) source

/-- **Members that share no names make their parts alone**: each makes of the object what it would
make of it if it came first.

**Proof sketch.** Induction on the members. By `TakesNames.frame` those after the first make of the
object, with the part of the first put over it, what they make of the object itself. -/
theorem castMembers_outcome_ok {nodes : List Node} {merged source : Entries} {r : Value}
    (hnodes : ∀ c ∈ nodes, TakesNames child path active names c)
    (hdisjoint : nodes.Pairwise fun c d => Disjoint (names c) (names d)) :
    (castMembers child path active merged source nodes).outcome = .ok r ↔
      (∀ c ∈ nodes, ∃ w, (child c (.mapping source) path active).outcome = .ok w) ∧
        r = .mapping (nodes.foldl
          (fun acc c => Entries.merge acc (partOf child path active source c)) merged) := by
  induction nodes generalizing merged source with
  | nil =>
    rw [castMembers, Traced.outcome_pure, Except.ok.injEq]
    simp [eq_comm]
  | cons c cs ih =>
    rw [List.pairwise_cons] at hdisjoint
    have hc := hnodes c List.mem_cons_self
    have hcs : ∀ d ∈ cs, TakesNames child path active names d := fun d hd =>
      hnodes d (List.mem_cons_of_mem c hd)
    rw [castMembers, bind_outcome_ok, List.forall_mem_cons]
    have hstep : ∀ w, (child c (.mapping source) path active).outcome = .ok w →
        ((if w.isObject = true then
            castMembers child path active (Entries.merge merged w.entries)
              (Entries.merge source w.entries) cs
          else failCast ("allOf member produced " ++ w.kindName ++ " for an object value")
            path).outcome = .ok r ↔
          (∀ d ∈ cs, ∃ w, (child d (.mapping source) path active).outcome = .ok w) ∧
            r = .mapping ((c :: cs).foldl
              (fun acc c => Entries.merge acc (partOf child path active source c)) merged)) := by
      intro w hw
      obtain ⟨part, rfl, -⟩ := hc.writes source w hw
      have hpart : partOf child path active source c = part := by
        rw [partOf, hw]
        rfl
      have hsame : ∀ d ∈ cs, child d (.mapping (Entries.merge source part)) path active =
          child d (.mapping source) path active := fun d hd =>
        hc.frame (hcs d hd) (hdisjoint.1 d hd) hw
      have hparts : ∀ d ∈ cs, partOf child path active (Entries.merge source part) d =
          partOf child path active source d := fun d hd => by
        rw [partOf, hsame d hd, partOf]
      have hfold : cs.foldl (fun acc d =>
          Entries.merge acc (partOf child path active (Entries.merge source part) d))
            (Entries.merge merged part) = (c :: cs).foldl
              (fun acc d => Entries.merge acc (partOf child path active source d)) merged := by
        rw [List.foldl_cons, hpart]
        exact List.foldl_ext _ _ _ fun acc d hd => by rw [hparts d hd]
      show (castMembers child path active (Entries.merge merged part) (Entries.merge source part)
        cs).outcome = .ok r ↔ _
      rw [ih hcs hdisjoint.2, hfold]
      refine and_congr_left fun _ => forall₂_congr fun d hd => ?_
      rw [hsame d hd]
    constructor
    · rintro ⟨w, hw, h⟩
      obtain ⟨hall, hr⟩ := (hstep w hw).1 h
      exact ⟨⟨⟨w, hw⟩, hall⟩, hr⟩
    · rintro ⟨⟨⟨w, hw⟩, hall⟩, hr⟩
      exact ⟨w, hw, (hstep w hw).2 ⟨hall, hr⟩⟩

end

/-! ## Whole casts -/

section

variable {context : CastContext} {child : NodeCaster} {s : Schema} {members members' : List Node}
  {es fs : Entries} {v r : Value} {path : Path} {active : List String} {depth : Nat}

/-- **Members that share no names commute**: in another order they make the same entries. -/
lemma castAllOf_order {names : Node → Set String} {own : Value}
    (hmembers : ∀ c ∈ members, TakesNames child path active names c)
    (hdisjoint : members.Pairwise fun c d => Disjoint (names c) (names d))
    (hperm : members.Perm members') (hsome : members ≠ [])
    (h : (castAllOf child { s with allOf := some members } (.mapping es) own path active).outcome =
      .ok r) :
    ∃ fs gs : Entries, r = .mapping fs ∧
      (castAllOf child { s with allOf := some members' } (.mapping es) own path active).outcome =
        .ok (.mapping gs) ∧ fs.SameButOrder gs := by
  have hmembers' : ∀ c ∈ members', TakesNames child path active names c := fun c hc =>
    hmembers c (hperm.mem_iff.2 hc)
  have hsymm : ∀ {c d : Node}, Disjoint (names c) (names d) → Disjoint (names d) (names c) :=
    fun h => h.symm
  have hlist : ∀ ms, Keywords.allOfList { s with allOf := some ms } = ms := fun _ => rfl
  unfold castAllOf at h ⊢
  rw [hlist] at h ⊢
  rw [← List.isEmpty_eq_false_iff] at hsome
  rw [hsome, if_neg Bool.false_ne_true] at h
  rw [← hperm.isEmpty_eq, hsome, if_neg Bool.false_ne_true]
  obtain ⟨hall, rfl⟩ := (castMembers_outcome_ok hmembers hdisjoint).1 h
  refine ⟨_, _, rfl, (castMembers_outcome_ok hmembers' ((hperm.pairwise_iff hsymm).1 hdisjoint)).2
    ⟨fun c hc => hall c (hperm.mem_iff.2 hc), rfl⟩, ?_⟩
  exact Entries.foldl_merge_perm hperm (fun c hc => partOf_isUnder (hmembers c hc) _) hdisjoint
    (.refl _)

/-- What conforms to a schema conforms to it with its members in another order. -/
lemma checkSchema_members {check : NodeChecker} (hperm : members.Perm members')
    (h : Validation.checkSchema check { s with allOf := some members } v path = .ok []) :
    Validation.checkSchema check { s with allOf := some members' } v path = .ok [] := by
  have hcomposition :
      Validation.Follows (Validation.checkComposition check { s with allOf := some members } v path)
        (Validation.checkComposition check { s with allOf := some members' } v path) := by
    refine (Validation.Follows.gather_perm hperm fun c => check c v path).bind
      fun all all' hall => ?_
    refine .bind_same fun any => .bind_same fun one => .bind_same fun no => .ok ?_
    exact Validation.Follows.append (Validation.Follows.append
      (Validation.Follows.append hall rfl) rfl) rfl
  have hfollows :
      Validation.Follows (Validation.checkSchema check { s with allOf := some members } v path)
        (Validation.checkSchema check { s with allOf := some members' } v path) := by
    unfold Validation.checkSchema
    dsimp only
    split
    · exact .refl _
    split
    · exact .refl _
    refine .bind_same fun scalar => .bind_same fun object => .bind_same fun array => ?_
    exact hcomposition.bind fun composition composition' hempty =>
      .ok (Validation.Follows.append rfl hempty)
  obtain ⟨is, his, hempty⟩ := hfollows.eq_ok h
  rw [his, List.isEmpty_iff.1 hempty.symm]

/-- Entries that are the same conform alike, with the members of the schema in any order. -/
lemma requireWhole_order (hperm : members.Perm members') (hsame : es.SameButOrder fs)
    (h : (requireWhole (Validation.checkNode context.registry context.limit depth)
      { s with allOf := some members } (.mapping es) path).outcome = .ok ()) :
    (requireWhole (Validation.checkNode context.registry context.limit depth)
      { s with allOf := some members' } (.mapping fs) path).outcome = .ok () := by
  have hfollows : ∀ c, Validation.Follows
      (Validation.checkNode context.registry context.limit depth c (.mapping es) path)
      (Validation.checkNode context.registry context.limit depth c (.mapping fs) path) := fun c =>
    Validation.checkNode_seesAlike context.registry context.limit depth
      (fun t _ => .of_order hsame) path
  have hcomposed : Keywords.isComposed { s with allOf := some members } =
      Keywords.isComposed { s with allOf := some members' } :=
    congrArg (fun none : Bool => !none || s.hasAlternatives) hperm.isEmpty_eq
  rw [requireWhole_eq, bind_outcome_ok] at h ⊢
  obtain ⟨_, hwhole, hrefuse⟩ := h
  refine ⟨(), ?_, ?_⟩
  · rw [hcomposed] at hwhole
    split at hwhole
    next hyes =>
      rw [if_pos hyes, require_outcome_ok]
      obtain ⟨is, his, hempty⟩ := (hfollows _).eq_ok (require_outcome_ok.1 hwhole)
      obtain rfl := List.isEmpty_iff.1 hempty.symm
      cases depth with
      | zero => cases his
      | succ depth =>
        have hnext : Validation.checkSchema
            (Validation.checkNode context.registry context.limit depth)
            { s.withoutAlternatives with allOf := some members } (.mapping fs) path = .ok [] := his
        exact checkSchema_members hperm hnext
    next hno => rw [if_neg hno, Traced.outcome_pure]
  · rw [refuseMatch_outcome_ok] at hrefuse ⊢
    obtain ⟨is, his, hempty⟩ := (Validation.checkNot_follows fun c _ => hfollows c).eq_ok hrefuse
    obtain rfl := List.isEmpty_iff.1 hempty.symm
    exact his

/-- Records are built of the same entries, whatever their order. -/
lemma materialize_order {types : TypeMap} (hsame : es.SameButOrder fs)
    (h : (materialize types s (.mapping es) path).outcome = .ok r) :
    ∃ r', (materialize types s (.mapping fs) path).outcome = .ok r' ∧ r.SameButOrder r' := by
  unfold materialize at h ⊢
  obtain ⟨target, htarget, h⟩ := bind_outcome_ok.1 h
  simp only [bind_outcome_ok]
  cases target with
  | none =>
    obtain rfl := Except.ok.inj h
    exact ⟨_, ⟨none, htarget, rfl⟩, .mapping hsame⟩
  | some t =>
    dsimp only at h
    split at h
    next hbuild =>
      obtain rfl := Except.ok.inj h
      obtain ⟨r', hbuild', hsame'⟩ := RecordType.build_order hsame hbuild
      refine ⟨r', ⟨some t, htarget, ?_⟩, hsame'⟩
      dsimp only
      rw [hbuild']
      rfl
    next => cases h

/-- **A schema casts to the same entries** with its members in another order. -/
lemma castNode_order
    (hs : s.hasAlternatives = false) (hselects : s.discriminator = none)
    (hmembers : ∀ c ∈ members, ∃ t, context.registry.Resolves c t ∧ t.TakesDeclared)
    (hdisjoint : members.Pairwise fun c d =>
      Disjoint (context.registry.takenNames c) (context.registry.takenNames d))
    (hperm : members.Perm members')
    (h : (castNode context depth (.schema { s with allOf := some members }) (.mapping es) path
      active).outcome = .ok r) :
    ∃ r', (castNode context depth (.schema { s with allOf := some members' }) (.mapping es) path
      active).outcome = .ok r' ∧ r.SameButOrder r' := by
  by_cases hnone : members = []
  · subst hnone
    obtain rfl := List.nil_perm.1 hperm
    exact ⟨r, h, .same r⟩
  cases depth with
  | zero => cases h
  | succ depth =>
    have htakes : ∀ c ∈ members, TakesNames (castNode context depth) path active
        context.registry.takenNames c := by
      intro c hc
      obtain ⟨t, hresolves, ht⟩ := hmembers c hc
      exact castNode_takesNames hresolves ht depth path active
    have hpure : ∀ ms (v own : Value), castAlternative (castNode context depth)
        (Validation.checkNode context.registry context.limit depth)
          { s with allOf := some ms } v own path active = pure own := fun ms v own =>
      castAlternative_eq_pure (s := { s with allOf := some ms }) hs v own path active
    rcases (castSchema_outcome_ok (s := { s with allOf := some members }) hselects).1 h with
      ⟨hnull, -⟩ | ⟨-, -, hcomposed⟩
    · cases hnull
    obtain ⟨own, all, result, hown, hall, hresult, hwhole, hmaterial⟩ :=
      castComposed_outcome_ok.1 hcomposed
    rw [hpure] at hresult
    obtain rfl := Except.ok.inj hresult
    obtain ⟨fs, gs, rfl, hall', hsame⟩ := castAllOf_order htakes hdisjoint hperm hnone hall
    have hwhole' := requireWhole_order hperm hsame hwhole
    obtain ⟨r', hmaterial', hsame'⟩ := materialize_order hsame hmaterial
    refine ⟨r', (castSchema_outcome_ok (s := { s with allOf := some members' }) hselects).2 ?_,
      hsame'⟩
    refine .inr ⟨rfl, rfl, castComposed_outcome_ok.2
      ⟨own, .mapping gs, .mapping gs, hown, hall', ?_, hwhole', hmaterial'⟩⟩
    rw [hpure, Traced.outcome_pure]

end

end Casting

/-- **Members that share no names commute.** Let a schema select no other and have no alternatives,
and let its members stand for schemas that take the properties they declare, no two of which declare
a property of the same name. Then an object that is cast with the members in one order is cast with
them in every other order, and the two results are the same but for the order of entries.

**Proof sketch.** `Casting.castMembers_outcome_ok` takes the members apart: each makes its part
alone, and the parts are put over each other. `Entries.foldl_merge_perm` puts them over each other
in the other order. What is asked of the whole afterwards, and the record that is built of it,
depend on the order of entries no more than on that of members. -/
theorem disjoint_members_commute (context : CastContext) {s : Schema} {members members' : List Node}
    (hs : s.hasAlternatives = false) (hselects : s.discriminator = none)
    (hmembers : ∀ c ∈ members, ∃ t, context.registry.Resolves c t ∧ t.TakesDeclared)
    (hdisjoint : members.Pairwise fun c d =>
      Disjoint (context.registry.takenNames c) (context.registry.takenNames d))
    (hperm : members.Perm members') (es : Entries) :
    (∀ r, (cast context (.schema { s with allOf := some members }) (.mapping es)).outcome =
        .ok (.ok r) →
      ∃ r', (cast context (.schema { s with allOf := some members' }) (.mapping es)).outcome =
        .ok (.ok r') ∧ r.SameButOrder r') ∧
    (∀ r', (cast context (.schema { s with allOf := some members' }) (.mapping es)).outcome =
        .ok (.ok r') →
      ∃ r, (cast context (.schema { s with allOf := some members }) (.mapping es)).outcome =
        .ok (.ok r) ∧ r.SameButOrder r') := by
  have hsymm : ∀ {c d : Node},
      Disjoint (context.registry.takenNames c) (context.registry.takenNames d) →
        Disjoint (context.registry.takenNames d) (context.registry.takenNames c) := fun h => h.symm
  have hmembers' : ∀ c ∈ members', ∃ t, context.registry.Resolves c t ∧ t.TakesDeclared :=
    fun c hc => hmembers c (hperm.mem_iff.2 hc)
  simp only [cast_outcome_ok]
  refine ⟨fun r h => Casting.castNode_order hs hselects hmembers hdisjoint hperm h, fun r' h => ?_⟩
  obtain ⟨r, hr, hsame⟩ := Casting.castNode_order hs hselects hmembers'
    ((hperm.pairwise_iff hsymm).1 hdisjoint) hperm.symm h
  exact ⟨r, hr, hsame.symm⟩

/-- What has a name. -/
def named : Schema where
  type := some .object
  properties := some [("name", .schema { type := some .string })]
  required := [.str "name"]

/-- What has a day of birth. -/
def born : Schema where
  type := some .object
  properties := some [("born", .schema { type := some .string, format := .str "date" })]

/-- What has a number, and is to have a name. -/
def registered : Schema where
  type := some .object
  properties := some [("id", .schema { type := some .integer })]
  required := [.str "id", .str "name"]

/-- What has a name, by name. -/
def people : Registry := ⟨[("Named", .schema named)]⟩

/-- A person as written down. -/
def writtenPerson : Entries :=
  [(.str "born", .str "1815-12-10"), (.str "name", .str "Ada"), (.str "id", .str "7")]

/-- The day of birth of the person. -/
def birthday : Date := ⟨1815, 12, 10, by decide⟩

/-- A person is cast to the same entries whether the name comes first or the day of birth. -/
theorem person_commutes :
    registered.hasAlternatives = false ∧ registered.discriminator = none ∧
      (∀ c ∈ [.ref "Named", .schema born], ∃ t, people.Resolves c t ∧ t.TakesDeclared) ∧
      [Node.ref "Named", .schema born].Pairwise
        (fun c d => Disjoint (people.takenNames c) (people.takenNames d)) ∧
      [Node.ref "Named", .schema born].Perm [.schema born, .ref "Named"] ∧
      (cast ⟨people, .generic, 9⟩
        (.schema { registered with allOf := some [.ref "Named", .schema born] })
        (.mapping writtenPerson)).outcome = .ok (.ok (.mapping
          [(.str "id", .int 7), (.str "name", .str "Ada"), (.str "born", .date birthday)])) ∧
      ∃ r', (cast ⟨people, .generic, 9⟩
        (.schema { registered with allOf := some [.schema born, .ref "Named"] })
        (.mapping writtenPerson)).outcome = .ok (.ok r') ∧
        Value.SameButOrder (.mapping
          [(.str "id", .int 7), (.str "name", .str "Ada"), (.str "born", .date birthday)]) r' := by
  have hnamed : people.Resolves (.ref "Named") named := .ref rfl (.schema named)
  have hborn : people.Resolves (.schema born) born := .schema born
  have hmembers : ∀ c ∈ [.ref "Named", .schema born],
      ∃ t, people.Resolves c t ∧ t.TakesDeclared := by
    simp only [List.forall_mem_cons, List.not_mem_nil, false_imp_iff, implies_true, and_true]
    exact ⟨⟨named, hnamed, ⟨⟨rfl, rfl, rfl⟩, rfl, rfl, rfl⟩⟩,
      ⟨born, hborn, ⟨⟨rfl, rfl, rfl⟩, rfl, rfl, rfl⟩⟩⟩
  have hdisjoint : [Node.ref "Named", .schema born].Pairwise
      fun c d => Disjoint (people.takenNames c) (people.takenNames d) := by
    rw [List.pairwise_pair, Registry.takenNames_eq hnamed, Registry.takenNames_eq hborn,
      Set.disjoint_left]
    intro name hname hname'
    rw [Keywords.mem_names] at hname hname'
    have hfirst : name = "name" := by simpa [named, Keywords.declared] using hname
    have hsecond : name = "born" := by simpa [born, Keywords.declared] using hname'
    exact absurd (hfirst.symm.trans hsecond) (by decide)
  have hcast : (cast ⟨people, .generic, 9⟩
      (.schema { registered with allOf := some [.ref "Named", .schema born] })
      (.mapping writtenPerson)).outcome = .ok (.ok (.mapping
        [(.str "id", .int 7), (.str "name", .str "Ada"), (.str "born", .date birthday)])) := by
    cbv
  have hperm : [Node.ref "Named", .schema born].Perm [.schema born, .ref "Named"] := .swap ..
  have hcommutes := disjoint_members_commute ⟨people, .generic, 9⟩ (s := registered) rfl rfl
    hmembers hdisjoint hperm writtenPerson
  exact ⟨rfl, rfl, hmembers, hdisjoint, hperm, hcast, hcommutes.1 _ hcast⟩

end DataSchema
