import DataSchema.Proofs.Alike
import DataSchema.Proofs.Soundness

set_option autoImplicit false

/-!
# Casts that keep values

Where no schema turns texts into dates or leaves properties out, what a cast makes of a JSON value
is like it, provided that the value conforms or has no text in it that is read as a number or a
truth value. Alternatives are tried on values that do not conform to them, so below them the latter
has to hold.

## Main definitions

* `DataSchema.Keywords.castNodes` — the nodes below a schema that a cast hands values to.
* `DataSchema.Keywords.Spares` — schemas that turn none of the given texts into something else.
* `DataSchema.Registry.Keeps` — nodes below which values are kept.

## Main results

* `DataSchema.Casting.castObject_get?` — the properties that a cast of an object makes.
* `DataSchema.Casting.castOwn_alike`, `DataSchema.Casting.castAllOf_alike`,
  `DataSchema.Casting.castAlternative_alike` — what the parts of a cast make.
* `DataSchema.Casting.castNode_alike` — what a cast by a node makes, at every depth.
-/

namespace DataSchema

/-! ## The properties that a cast of an object makes -/

namespace Keywords

/-- The node that applies to a property: the one that declares it, or the one for undeclared
properties. -/
def propertyNode? (s : Schema) (name : String) : Option Node :=
  (s.declared.lookup name).or s.additional.node?

variable {s : Schema} {name : String} {c : Node}

/-- A node for a property applies to a part of the value. -/
lemma mem_partNodes_property (h : s.propertyNode? name = some c) : c ∈ s.partNodes := by
  rcases Option.or_eq_some_iff.1 h with h | ⟨-, h⟩
  · exact mem_partNodes_declared (mem_of_lookup h)
  · exact mem_partNodes_additional (Additional.node?_eq_some.1 h)

/-- A name is not declared when no node is declared under it. -/
lemma declares_eq_false : s.declares (.str name) = false ↔ s.declared.lookup name = none := by
  rw [← Bool.not_eq_true, declares_iff]
  constructor
  · intro hno
    cases hnode : s.declared.lookup name with
    | none => rfl
    | some node => exact absurd ⟨(name, node), mem_of_lookup hnode, rfl⟩ hno
  · rintro hnone ⟨p, hp, heq⟩
    obtain rfl := Value.str.inj heq
    obtain ⟨node, hnode⟩ := lookup_of_mem hp
    rw [hnone] at hnode
    cases hnode

/-- The node of a declared property applies to it. -/
lemma propertyNode?_declared (hnames : (s.declared.map Prod.fst).Nodup) {p : String × Node}
    (hp : p ∈ s.declared) : s.propertyNode? p.1 = some p.2 := by
  rw [propertyNode?, lookup_eq_of_nodup hnames hp]
  rfl

/-- The node for undeclared properties applies to each of them. -/
lemma propertyNode?_undeclared {data : Entries} (hdata : data.Named)
    (hc : s.additional = .schema c) {e : Value × Value} (he : e ∈ Validation.undeclared s data) :
    ∃ name, e.1 = .str name ∧ data.get? (.str name) = some e.2 ∧
      s.propertyNode? name = some c := by
  obtain ⟨hmem, hnot⟩ := List.mem_filter.1 he
  obtain ⟨name, hname⟩ := hdata.text e hmem
  have hget := hdata.get?_of_mem hmem
  rw [hname] at hget hnot
  refine ⟨name, hname, hget, ?_⟩
  rw [propertyNode?, declares_eq_false.1 (by simpa using hnot), hc]
  rfl

/-- Declared properties of an object that conforms conform to their nodes. -/
lemma declared_meets {test : NodeTest} {data : Entries}
    (h : Conformance.meetsEntries test s data = true) (hc : (name, c) ∈ s.declared) {v : Value}
    (hv : data.get? (.str name) = some v) : test c v = true := by
  simp only [Conformance.meetsEntries, Bool.and_eq_true] at h
  have hp := List.all_eq_true.1 h.1.1.1.1 (name, c) hc
  rwa [hv, Option.all_some] at hp

/-- The properties of an object that conforms conform to the nodes that apply to them. -/
lemma property_meets {test : NodeTest} {data : Entries}
    (h : Conformance.meetsEntries test s data = true) {v : Value}
    (hv : data.get? (.str name) = some v) (hc : s.propertyNode? name = some c) :
    test c v = true := by
  rcases Option.or_eq_some_iff.1 hc with hc | ⟨hnone, hc⟩
  · exact declared_meets h (mem_of_lookup hc) hv
  · simp only [Conformance.meetsEntries, Bool.and_eq_true] at h
    have hadditional := h.1.1.2
    rw [Conformance.meetsAdditional, Additional.node?_eq_some.1 hc] at hadditional
    have he := List.all_eq_true.1 hadditional _ (Entries.mem_of_get? hv)
    rwa [declares_eq_false.2 hnone, Bool.false_or] at he

end Keywords

/-- A schema turns none of certain texts into something else. -/
def Keywords.Spares (T : String → Prop) (s : Schema) : Prop :=
  ∀ text, T text → ∀ path r, (Casting.castScalar s (.str text) path).outcome = .ok r →
    r = .str text

namespace Casting

open Validation Soundness Conformance

variable {T : String → Prop} {F : Binary64 → Prop} {child : NodeCaster} {s : Schema}
  {v r : Value} {path : Path} {active : List String}

section object

variable {data declared others : Entries}

/-- Under an undeclared name there is the same among the undeclared entries. -/
lemma undeclared_get? {name : String} (hname : s.declares (.str name) = false) :
    Entries.get? (undeclared s data) (.str name) = data.get? (.str name) := by
  have hkey : ∀ e : Value × Value, (e.1.sameKey (.str name) && !s.declares e.1) =
      e.1.sameKey (.str name) := by
    intro e
    cases h : e.1.sameKey (.str name) with
    | false => rfl
    | true => rw [Value.sameKey_str.1 h, hname, Bool.not_false, Bool.and_true]
  unfold undeclared Entries.get?
  rw [← List.head?_filter, List.filter_filter, ← List.head?_filter]
  simp only [hkey]

/-- Declared properties are cast in the order in which they are declared. -/
lemma castDeclared_sublist {ps : List (String × Node)}
    (h : (castDeclared child data path active ps).outcome = .ok declared) :
    (declared.map Prod.fst).Sublist (ps.map fun p => .str p.1) := by
  induction ps generalizing declared with
  | nil =>
    obtain rfl := Except.ok.inj h
    exact .slnil
  | cons p ps ih =>
    unfold castDeclared at h
    split at h
    next => exact (ih h).cons _
    next v hv =>
      obtain ⟨r, -, h⟩ := bind_outcome_ok.1 h
      obtain ⟨rest, hrest, h⟩ := bind_outcome_ok.1 h
      obtain rfl := Except.ok.inj h
      exact (ih hrest).cons_cons _

/-- Declared properties are cast to entries with names. -/
lemma castDeclared_named (hnames : (s.declared.map Prod.fst).Nodup)
    (hdeclared : (castDeclared child data path active s.declared).outcome = .ok declared) :
    Entries.Named declared where
  text e he := by
    obtain ⟨p, -, hkey, -⟩ := castDeclared_keys hdeclared e he
    exact ⟨p.1, hkey⟩
  nodup := by
    have hstr : s.declared.map (fun p => Value.str p.1) = (s.declared.map Prod.fst).map .str := by
      rw [List.map_map]
      rfl
    refine (List.Nodup.sublist (castDeclared_sublist hdeclared)) ?_
    rw [hstr]
    exact List.Nodup.map (fun _ _ => Value.str.inj) hnames

/-- A key is not both that of a declared property and that of an undeclared one. -/
lemma castDeclared_disjoint_castExtra
    (hdeclared : (castDeclared child data path active s.declared).outcome = .ok declared)
    (hothers : (castExtra child s (undeclared s data) path active).outcome = .ok others) :
    ∀ e ∈ declared, ∀ e' ∈ others, e.1.sameKey e'.1 = false := by
  intro e he e' he'
  obtain ⟨p, hp, hkey, -⟩ := castDeclared_keys hdeclared e he
  rw [hkey, Bool.eq_false_iff, Ne, Value.str_sameKey]
  intro hkey'
  have hnot := castExtra_undeclared hothers e' he'
  rw [Keywords.declares_iff.2 ⟨p, hp, hkey'⟩] at hnot
  cases hnot

/-- Undeclared properties keep their order. -/
lemma castExtra_sublist
    (hothers : (castExtra child s (undeclared s data) path active).outcome = .ok others) :
    (others.map Prod.fst).Sublist (data.map Prod.fst) := by
  rw [castExtra_keys hothers]
  split
  · exact List.filter_sublist.map _
  · exact List.nil_sublist _

/-- Entries with distinct keys are cast to such. -/
lemma castObject_keysDistinct (hdata : data.KeysDistinct)
    (hnames : (s.declared.map Prod.fst).Nodup)
    (hdeclared : (castDeclared child data path active s.declared).outcome = .ok declared)
    (hothers : (castExtra child s (undeclared s data) path active).outcome = .ok others) :
    Entries.KeysDistinct (declared ++ others) := by
  have hfirst := (castDeclared_named hnames hdeclared).keysDistinct
  have hsecond := hdata.sublist (castExtra_sublist hothers)
  exact {
    apart := List.pairwise_append.2
      ⟨hfirst.apart, hsecond.apart, castDeclared_disjoint_castExtra hdeclared hothers⟩
    self := fun e he => (List.mem_append.1 he).elim (hfirst.self e) (hsecond.self e) }

/-- The entries that a cast of an object makes have names. -/
lemma castObject_named (hdata : data.Named) (hnames : (s.declared.map Prod.fst).Nodup)
    (hdeclared : (castDeclared child data path active s.declared).outcome = .ok declared)
    (hothers : (castExtra child s (undeclared s data) path active).outcome = .ok others) :
    Entries.Named (declared ++ others) := by
  have hfirst := castDeclared_named hnames hdeclared
  refine Entries.Named.of_keysDistinct (fun e he => ?_)
    (castObject_keysDistinct hdata.keysDistinct hnames hdeclared hothers)
  rcases List.mem_append.1 he with he | he
  · exact hfirst.text e he
  · have hkeys := (castExtra_sublist hothers).subset (List.mem_map_of_mem he)
    obtain ⟨e', he', heq⟩ := List.mem_map.1 hkeys
    rw [← heq]
    exact hdata.text e' he'

/-- Under an undeclared name there is what there was, or what the node for undeclared properties
made of it, or nothing if nothing was there or the property is left out. -/
lemma castExtra_get? (hdata : data.Named)
    (hothers : (castExtra child s (undeclared s data) path active).outcome = .ok others)
    {name : String} (hname : s.declares (.str name) = false) :
    others.get? (.str name) = none ∧
        (data.get? (.str name) = none ∨ keepsExtra s = false) ∨
      ∃ v r, data.get? (.str name) = some v ∧ others.get? (.str name) = some r ∧
        (s.additional.node? = none ∧ r = v ∨ ∃ c p, s.additional.node? = some c ∧
          (child c v p active).outcome = .ok r) := by
  have hextra : Entries.get? (undeclared s data) (.str name) = data.get? (.str name) :=
    undeclared_get? hname
  cases hnode : s.additional.node? with
  | none =>
    rw [castExtra_eq_pure hnode] at hothers
    obtain rfl := Except.ok.inj hothers
    cases hkeep : keepsExtra s with
    | false => exact .inl ⟨rfl, .inr rfl⟩
    | true =>
      rw [if_pos rfl, hextra]
      cases hv : data.get? (.str name) with
      | none => exact .inl ⟨rfl, .inl rfl⟩
      | some v => exact .inr ⟨v, v, rfl, rfl, .inl ⟨rfl, rfl⟩⟩
  | some node =>
    have hadditional : s.additional = .schema node := Additional.node?_eq_some.1 hnode
    have hkeys := castExtra_keys hothers
    rw [keepsExtra, hadditional, if_pos rfl] at hkeys
    have hhas : others.has (.str name) = true ↔ (undeclared s data).has (.str name) = true :=
      Entries.has_of_keys hkeys
    rw [Entries.has, Entries.has, hextra] at hhas
    cases hv : data.get? (.str name) with
    | none =>
      rw [hv] at hhas
      exact .inl ⟨by simpa using hhas, .inl rfl⟩
    | some v =>
      rw [hv] at hhas
      obtain ⟨r, hr⟩ := Option.isSome_iff_exists.1 (hhas.2 rfl)
      obtain ⟨w, hw, hcast⟩ := castExtra_schema hadditional hothers _ (Entries.mem_of_get? hr)
      have hsame := hdata.get?_of_mem (List.mem_of_mem_filter hw)
      rw [hv] at hsame
      obtain rfl := Option.some.inj hsame
      exact .inr ⟨v, r, rfl, hr, .inr ⟨node, _, rfl, hcast⟩⟩

/-- **The properties that a cast of an object makes**: under a name there is what there was or what
the node that applies made of it, or nothing if nothing was there or the property is left out. -/
lemma castObject_get? (hdata : data.Named)
    (hdeclared : (castDeclared child data path active s.declared).outcome = .ok declared)
    (hothers : (castExtra child s (undeclared s data) path active).outcome = .ok others)
    (name : String) :
    Entries.get? (declared ++ others) (.str name) = none ∧
        (data.get? (.str name) = none ∨ s.declares (.str name) = false ∧ keepsExtra s = false) ∨
      ∃ v r, data.get? (.str name) = some v ∧
        Entries.get? (declared ++ others) (.str name) = some r ∧
        (s.propertyNode? name = none ∧ r = v ∨ ∃ c p, s.propertyNode? name = some c ∧
          (child c v p active).outcome = .ok r) := by
  cases hnode : s.declared.lookup name with
  | some node =>
    have hdeclares : s.declares (.str name) = true :=
      Keywords.declares_iff.2 ⟨(name, node), mem_of_lookup hnode, rfl⟩
    have hproperty : s.propertyNode? name = some node := by rw [Keywords.propertyNode?, hnode]; rfl
    rw [get?_result hothers hdeclares]
    rcases castDeclared_get? hdeclared hnode with ⟨hnone, hnone'⟩ | ⟨v, r, hv, hcast, hr⟩
    · exact .inl ⟨hnone', .inl hnone⟩
    · exact .inr ⟨v, r, hv, hr, .inr ⟨node, _, hproperty, hcast⟩⟩
  | none =>
    have hdeclares := Keywords.declares_eq_false.2 hnode
    have habsent : declared.get? (.str name) = none := by
      refine Entries.get?_eq_none fun e he hkey => ?_
      obtain ⟨p, hp, hkey', -⟩ := castDeclared_keys hdeclared e he
      rw [← hkey, Keywords.declares_iff.2 ⟨p, hp, hkey'⟩] at hdeclares
      cases hdeclares
    rw [Entries.get?_append, habsent, Option.none_or, Keywords.propertyNode?, hnode, Option.none_or]
    rcases castExtra_get? hdata hothers hdeclares with ⟨hnone, h⟩ | hsome
    · exact .inl ⟨hnone, h.imp_right fun hdrop => ⟨hdeclares, hdrop⟩⟩
    · exact .inr hsome

/-- A cast that leaves out nothing makes the properties that are there. -/
lemma castObject_isSome (hdata : data.Named)
    (hextra : keepsExtra s = true ∨ s.additional = .flag false)
    (hrefuse : s.additional = .flag false → undeclared s data = [])
    (hdeclared : (castDeclared child data path active s.declared).outcome = .ok declared)
    (hothers : (castExtra child s (undeclared s data) path active).outcome = .ok others)
    (name : String) : (data.get? (.str name)).isSome =
      (Entries.get? (declared ++ others) (.str name)).isSome := by
  rcases castObject_get? hdata hdeclared hothers name with
    ⟨hnone, hdata | ⟨hname, hdrop⟩⟩ | ⟨v, r, hv, hr, -⟩
  · rw [hnone, hdata]
  · -- a property that is left out has been refused before
    have hforbidden := hextra.resolve_left (by simp [hdrop])
    have hdata : data.get? (.str name) = none := by
      rw [← undeclared_get? hname, hrefuse hforbidden]
      rfl
    rw [hnone, hdata]
  · rw [hv, hr, Option.isSome_some, Option.isSome_some]

/-- A cast that leaves out nothing makes as many properties as there are. -/
lemma castObject_length (hdata : data.Named) (hnames : (s.declared.map Prod.fst).Nodup)
    (hextra : keepsExtra s = true ∨ s.additional = .flag false)
    (hrefuse : s.additional = .flag false → undeclared s data = [])
    (hdeclared : (castDeclared child data path active s.declared).outcome = .ok declared)
    (hothers : (castExtra child s (undeclared s data) path active).outcome = .ok others) :
    (declared ++ others).length = data.length := by
  have hperm := hdata.keys_perm (castObject_named hdata hnames hdeclared hothers)
    (castObject_isSome hdata hextra hrefuse hdeclared hothers)
  simpa using hperm.length_eq.symm

end object

/-- What a cast of an object makes, if nothing is left out: an object with the same names, and under
each a value that is related to the one before as values are to what they are cast to. -/
lemma castObject_related {R : Value → Value → Prop} {data : Entries} (hrefl : ∀ v, R v v)
    (hdata : data.Named) (hnames : (s.declared.map Prod.fst).Nodup)
    (hextra : keepsExtra s = true ∨ s.additional = .flag false)
    (hchild : ∀ name w c, data.get? (.str name) = some w → s.propertyNode? name = some c →
      ∀ p r, (child c w p active).outcome = .ok r → R w r)
    (h : (castObject child s (.mapping data) path active).outcome = .ok r) :
    ∃ fs : Entries, r = .mapping fs ∧ fs.Named ∧
      (∀ name, (data.get? (.str name)).isSome = (fs.get? (.str name)).isSome) ∧
      ∀ name w r, data.get? (.str name) = some w → fs.get? (.str name) = some r → R w r := by
  obtain ⟨data', declared, others, hsame, -, hrefuse, hdeclared, hothers, -, -, rfl⟩ :=
    castObject_outcome_ok.1 h
  obtain rfl := Option.some.inj hsame
  refine ⟨_, rfl, castObject_named hdata hnames hdeclared hothers,
    castObject_isSome hdata hextra hrefuse hdeclared hothers, fun name w r hw hr => ?_⟩
  rcases castObject_get? hdata hdeclared hothers name with ⟨hnone, -⟩ | ⟨w', r', hw', hr', hcast⟩
  · rw [hnone] at hr
    cases hr
  · rw [hw] at hw'
    rw [hr] at hr'
    obtain rfl := Option.some.inj hw'
    obtain rfl := Option.some.inj hr'
    rcases hcast with ⟨-, rfl⟩ | ⟨c, p, hc, hcast⟩
    · exact hrefl r
    · exact hchild name w c hw hc p r hcast

/-- **Objects of which nothing is left out are cast to objects alike**, if their properties are cast
to values alike. -/
lemma castObject_alike {data : Entries} (hv : (Value.mapping data).IsJsonOf T F)
    (hnames : (s.declared.map Prod.fst).Nodup)
    (hextra : keepsExtra s = true ∨ s.additional = .flag false)
    (hchild : ∀ name w c, data.get? (.str name) = some w → s.propertyNode? name = some c →
      ∀ p r, (child c w p active).outcome = .ok r → w.Alike r)
    (h : (castObject child s (.mapping data) path active).outcome = .ok r) :
    (Value.mapping data).Alike r := by
  obtain ⟨fs, rfl, hnamed, hsame, hall⟩ :=
    castObject_related .same hv.named hnames hextra hchild h
  exact .mapping hnamed hsame hall

/-- Items are cast to as many items, each related to the one before as values are to what they are
cast to. -/
lemma castItems_related {R : Value → Value → Prop} {items result : List Value}
    (hrefl : ∀ v, R v v)
    (hchild : ∀ w ∈ items, ∀ c, s.items = some c →
      ∀ p r, (child c w p active).outcome = .ok r → R w r)
    (h : (castItems child s items path active).outcome = .ok result) :
    items.length = result.length ∧ ∀ p ∈ items.zip result, R p.1 p.2 := by
  have hlength := castItems_length h
  refine ⟨hlength.symm, fun p hp => ?_⟩
  obtain ⟨i, hi, rfl⟩ := List.getElem_of_mem hp
  rw [List.length_zip] at hi
  have hi' : i < result.length := by omega
  rw [List.getElem_zip]
  cases hnode : s.items with
  | none =>
    rw [castItems, hnode] at h
    obtain rfl := Except.ok.inj h
    exact hrefl _
  | some node =>
    obtain ⟨w, hw, hcast⟩ := castItems_getElem? hnode h (List.getElem?_eq_getElem hi')
    obtain ⟨hi'', rfl⟩ := List.getElem?_eq_some_iff.1 hw
    exact hchild _ (List.getElem_mem hi'') node hnode _ _ hcast

/-- **Arrays are cast to arrays alike**, if their items are cast to values alike. -/
lemma castArray_alike {items : List Value}
    (hchild : ∀ w ∈ items, ∀ c, s.items = some c →
      ∀ p r, (child c w p active).outcome = .ok r → w.Alike r)
    (h : (castArray child s (.list items) path active).outcome = .ok r) :
    (Value.list items).Alike r := by
  obtain ⟨items', result, hitems, hresult, -, -, -, rfl⟩ := castArray_outcome_ok.1 h
  obtain rfl := Option.some.inj hitems
  obtain ⟨hlength, hall⟩ := castItems_related .same hchild hresult
  exact .list hlength hall

/-- What a conversion by the type makes of a value that is no text: the value, or the whole number
that a double is. -/
lemma castTyped_notText (hv : ∀ text, v ≠ .str text) (h : (castTyped s v path).outcome = .ok r) :
    r = v ∨ s.type = some .integer ∧ ∃ x n, v = .float x ∧ x.toInt? = some n ∧ r = .int n := by
  cases castTyped_outcome_ok.1 h with
  | unasked | text | number | double | integer | boolean => exact .inl rfl
  | wholeDouble htype hwhole => exact .inr ⟨htype, _, _, rfl, hwhole, rfl⟩
  | numberText | integerText | booleanText => exact absurd rfl (hv _)

/-- Where no dates are asked for, a text that conforms is kept. -/
lemma castScalar_text {text : String} (hdates : asksForDates s = false)
    (hkeep : meetsType s (.str text) = true ∨ s.Spares T) (htext : T text)
    (h : (castScalar s (.str text) path).outcome = .ok r) : r = .str text := by
  rcases hkeep with hmeets | hspares
  · rw [castScalar_eq_castTyped hdates, castTyped_outcome_ok] at h
    unfold meetsType at hmeets
    cases h with
    | unasked | text => rfl
    | numberText htype _ | integerText htype _ | booleanText htype _ =>
      rw [htype] at hmeets
      cases hmeets
  · exact hspares text htext path r h

/-- **Scalars are cast to scalars alike**, if no text is converted. -/
lemma castScalar_alike (hv : v.IsJsonOf T F) (hdates : asksForDates s = false)
    (hkeep : meetsType s v = true ∨ s.Spares T)
    (h : (castScalar s v path).outcome = .ok r) : v.Alike r := by
  by_cases htext : ∃ text, v = .str text
  · obtain ⟨text, rfl⟩ := htext
    cases hv with
    | str htext =>
      rw [castScalar_text hdates hkeep htext h]
      exact .same _
  · rw [castScalar_eq_castTyped hdates] at h
    rcases castTyped_notText (fun text heq => htext ⟨text, heq⟩) h with
      rfl | ⟨-, x, n, rfl, hn, rfl⟩
    · exact .same r
    · exact .whole hn

/-- **What the shape of a schema makes of a value is like it**, if nothing is left out, no text is
converted, and the parts are cast to values alike. -/
lemma castOwn_alike (hv : v.IsJsonOf T F) (hnames : (s.declared.map Prod.fst).Nodup)
    (hextra : keepsExtra s = true ∨ s.additional = .flag false) (hdates : asksForDates s = false)
    (hkeep : meetsType s v = true ∨ s.Spares T)
    (hproperty : ∀ data : Entries, v = .mapping data → ∀ name w c,
      data.get? (.str name) = some w → s.propertyNode? name = some c →
      ∀ p r, (child c w p active).outcome = .ok r → w.Alike r)
    (hitem : ∀ items, v = .list items → ∀ w ∈ items, ∀ c, s.items = some c →
      ∀ p r, (child c w p active).outcome = .ok r → w.Alike r)
    (h : (castOwn child s v path active).outcome = .ok r) : v.Alike r := by
  rcases castOwn_outcome_ok.1 h with ⟨-, h⟩ | ⟨-, -, h⟩ | ⟨-, -, h, -⟩
  · obtain ⟨data, -, -, hdata, -⟩ := castObject_outcome_ok.1 h
    cases hv with
    | @mapping es hnamed hall =>
      exact castObject_alike (.mapping hnamed hall) hnames hextra (hproperty es rfl) h
    | _ => cases hdata
  · obtain ⟨items, -, hitems, -⟩ := castArray_outcome_ok.1 h
    cases hv with
    | @list items hall => exact castArray_alike (hitem items rfl) h
    | _ => cases hitems
  · exact castScalar_alike hv hdates hkeep h

end Casting

/-! ## Results put over each other -/

namespace Value.Alike

variable {es fs : Entries} {r : Value}

/-- What is like an object is an object. -/
lemma eq_mapping (h : (Value.mapping es).Alike r) : ∃ fs, r = .mapping fs := by
  cases h with
  | same _ => exact ⟨es, rfl⟩
  | mapping _ _ _ => exact ⟨_, rfl⟩

/-- Objects alike have the same names, with values alike. -/
lemma entries (h : (Value.mapping es).Alike (.mapping fs)) (hes : es.Named) :
    fs.Named ∧ (∀ name, (es.get? (.str name)).isSome = (fs.get? (.str name)).isSome) ∧
      ∀ name v r, es.get? (.str name) = some v → fs.get? (.str name) = some r → v.Alike r := by
  cases h with
  | same _ =>
    refine ⟨hes, fun _ => rfl, fun name v r hv hr => ?_⟩
    rw [hv] at hr
    obtain rfl := Option.some.inj hr
    exact .same v
  | mapping hfs hsame hall => exact ⟨hfs, hsame, hall⟩

end Value.Alike

/-- Entries have names of an object, with values alike. -/
structure Entries.PartOf (es fs : Entries) : Prop where
  /-- They have names. -/
  named : fs.Named
  /-- Under each of them there is a value like the one of the object. -/
  alike : ∀ name r, fs.get? (.str name) = some r → ∃ v, es.get? (.str name) = some v ∧ v.Alike r

namespace Entries.PartOf

variable {es fs gs : Entries}

/-- No entries are part of every object. -/
lemma nil : Entries.PartOf es [] := ⟨.nil, fun _ _ hr => by cases hr⟩

/-- What is like an object is part of it. -/
lemma of_alike (hes : es.Named) (h : (Value.mapping es).Alike (.mapping fs)) : es.PartOf fs := by
  obtain ⟨hfs, hsame, hall⟩ := h.entries hes
  refine ⟨hfs, fun name r hr => ?_⟩
  obtain ⟨v, hv⟩ := Option.isSome_iff_exists.1 ((hsame name).trans (by rw [hr]; rfl))
  exact ⟨v, hv, hall name v r hv hr⟩

/-- What is like an object, put over a part of it, is like it. -/
lemma merge_alike (hes : es.Named) (hpart : es.PartOf fs)
    (h : (Value.mapping es).Alike (.mapping gs)) :
    (Value.mapping es).Alike (.mapping (fs.merge gs)) := by
  obtain ⟨hgs, hsame, hall⟩ := h.entries hes
  have hget := hgs.get?_merge fs
  refine .mapping (hpart.named.merge hgs) (fun name => ?_) fun name v r hv hr => ?_
  · rw [hget]
    cases hg : gs.get? (.str name) with
    | some r => rw [hsame, hg, Option.some_or]
    | none =>
      have hnone : es.get? (.str name) = none := by simpa [hg] using hsame name
      cases hf : fs.get? (.str name) with
      | none => rw [hnone, Option.none_or]
      | some r =>
        obtain ⟨v, hv, -⟩ := hpart.alike name r hf
        rw [hnone] at hv
        cases hv
  · rw [hget] at hr
    obtain ⟨r', hr'⟩ := Option.isSome_iff_exists.1 ((hsame name).symm.trans (by rw [hv]; rfl))
    rw [hr', Option.some_or] at hr
    exact hall name v r hv (by rw [hr', hr])

end Entries.PartOf

namespace Casting

open Validation Soundness Conformance

variable {T : String → Prop} {F : Binary64 → Prop} {child : NodeCaster} {check : NodeChecker}
  {s : Schema} {v own r : Value} {path : Path} {active : List String}

/-- What the members of a composition make of an object is like it. -/
lemma castMembers_alike {es merged source : Entries} {nodes : List Node} (hes : es.Named)
    (hmerged : es.PartOf merged)
    (hfull : nodes = [] → (Value.mapping es).Alike (.mapping merged))
    (hsource : (Value.mapping es).Alike (.mapping source))
    (hchild : ∀ c ∈ nodes, ∀ w r, (Value.mapping es).Alike w →
      (child c w path active).outcome = .ok r → w.Alike r)
    (h : (castMembers child path active merged source nodes).outcome = .ok r) :
    (Value.mapping es).Alike r := by
  induction nodes generalizing merged source with
  | nil =>
    obtain rfl := Except.ok.inj h
    exact hfull rfl
  | cons c cs ih =>
    unfold castMembers at h
    obtain ⟨part, hpart, h⟩ := bind_outcome_ok.1 h
    have halike := hsource.trans (hchild c List.mem_cons_self _ _ hsource hpart)
    obtain ⟨ps, rfl⟩ := halike.eq_mapping
    have hmerged' := hmerged.merge_alike hes halike
    exact ih (.of_alike hes hmerged') (fun _ => hmerged')
      ((Entries.PartOf.of_alike hes hsource).merge_alike hes halike)
      (fun c hc => hchild c (List.mem_cons_of_mem _ hc)) h

/-- What nodes make of a value one after another is like it. -/
lemma castInTurn_alike {w : Value} {nodes : List Node} (hw : v.Alike w)
    (hchild : ∀ c ∈ nodes, ∀ w r, v.Alike w → (child c w path active).outcome = .ok r → w.Alike r)
    (h : (castInTurn child path active w nodes).outcome = .ok r) : v.Alike r := by
  induction nodes generalizing w with
  | nil =>
    obtain rfl := Except.ok.inj h
    exact hw
  | cons c cs ih =>
    obtain ⟨next, hnext, h⟩ := bind_outcome_ok.1 h
    exact ih (hw.trans (hchild c List.mem_cons_self w next hw hnext))
      (fun c hc => hchild c (List.mem_cons_of_mem _ hc)) h

/-- **What all members of a composition make of a value is like it.** -/
lemma castAllOf_alike (hv : v.IsJsonOf T F) (hown : v.Alike own)
    (hchild : ∀ c ∈ s.allOfList, ∀ w r, v.Alike w →
      (child c w path active).outcome = .ok r → w.Alike r)
    (h : (castAllOf child s v own path active).outcome = .ok r) : v.Alike r := by
  unfold castAllOf at h
  split at h
  next =>
    obtain rfl := Except.ok.inj h
    exact hown
  next hsome =>
    split at h
    next hobject =>
      obtain ⟨es, rfl⟩ := hv.of_isObject hobject
      obtain ⟨fs, rfl⟩ := hown.eq_mapping
      have hpart := Entries.PartOf.of_alike hv.named hown
      refine castMembers_alike hv.named ?_ (fun hnil => ?_) ?_ hchild h
      · split
        · exact hpart
        · exact .nil
      · rw [hnil] at hsome
        exact absurd rfl hsome
      · exact (Entries.PartOf.of_alike hv.named (.same _)).merge_alike hv.named hown
    next => exact castInTurn_alike hown hchild h

/-- What alternatives are tried on is like the value. -/
lemma source_alike (hv : v.IsJsonOf T F) (hown : v.Alike own) :
    v.Alike (if v.isObject then .mapping (overlay v own) else own) := by
  split
  next hobject =>
    obtain ⟨es, rfl⟩ := hv.of_isObject hobject
    obtain ⟨fs, rfl⟩ := hown.eq_mapping
    exact (Entries.PartOf.of_alike hv.named (.same _)).merge_alike hv.named hown
  next => exact hown

/-- Alternatives are tried on the value itself, if its own shape made nothing else of it. -/
lemma source_self (hv : v.IsJsonOf T F) :
    (if v.isObject then .mapping (overlay v v) else v) = v := by
  split
  next hobject =>
    obtain ⟨es, rfl⟩ := hv.of_isObject hobject
    exact congrArg Value.mapping hv.named.merge_self
  next => rfl

/-- **What an alternative makes of a value is like it.** -/
lemma castAlternative_alike (hv : v.IsJsonOf T F) (hown : v.Alike own)
    (hchild : ∀ c ∈ alternatives s, ∀ w r, v.Alike w →
      (child c w path active).outcome = .ok r → w.Alike r)
    (h : (castAlternative child check s v own path active).outcome = .ok r) : v.Alike r := by
  cases hsome : s.hasAlternatives with
  | false =>
    rw [castAlternative_eq_pure hsome] at h
    obtain rfl := Except.ok.inj h
    exact hown
  | true =>
    obtain ⟨c, hc, chosen, hchosen, -, rfl⟩ := castAlternative_outcome_ok hsome h
    have hsource := source_alike hv hown
    have halike := hsource.trans (hchild c hc _ _ hsource hchosen)
    unfold combine
    split
    next => exact halike
    next =>
      split
      next hboth =>
        obtain ⟨es, rfl⟩ := hv.of_isObject
          (halike.isObject ▸ (Bool.and_eq_true_iff.1 hboth).2)
        obtain ⟨fs, rfl⟩ := hown.eq_mapping
        obtain ⟨gs, rfl⟩ := halike.eq_mapping
        exact (Entries.PartOf.of_alike hv.named hown).merge_alike hv.named halike
      next => exact halike

end Casting

/-! ## Nodes -/

namespace Keywords

variable {ν : Type} {s : Keywords ν} {c : ν}

/-- The nodes below a schema that a cast hands values to: all but the one that must not match. -/
def castNodes (s : Keywords ν) : List ν := s.partNodes ++ s.allOfList ++ s.anyOfList ++ s.oneOfList

/-- A part of the value is cast by a node below the schema. -/
lemma mem_castNodes_of_part (h : c ∈ s.partNodes) : c ∈ s.castNodes := by
  simp [castNodes, h]

/-- The members of a composition cast the value itself. -/
lemma mem_castNodes_allOf (h : c ∈ s.allOfList) : c ∈ s.castNodes := by
  simp [castNodes, h]

/-- The nodes that a cast hands values to are nodes below the schema. -/
lemma mem_children_of_cast (h : c ∈ s.castNodes) : c ∈ s.children := by
  simp only [castNodes, List.mem_append] at h
  rcases h with ((h | h) | h) | h
  · exact mem_children_of_part h
  · exact mem_children_of_same (mem_sameNodes_allOf h)
  · exact mem_children_of_same (mem_sameNodes_anyOf h)
  · exact mem_children_of_same (mem_sameNodes_oneOf h)

/-- The alternatives that are tried cast the value itself. -/
lemma mem_castNodes_alternatives {s : Schema} {c : Node} (h : c ∈ Casting.alternatives s) :
    c ∈ s.castNodes := by
  unfold Casting.alternatives at h
  unfold castNodes
  split at h <;> simp [h]

/-- A schema selects no other, builds no record, and declares no property twice. -/
structure IsDirect (s : Schema) : Prop where
  /-- No other schema is selected. -/
  discriminator : s.discriminator = none
  /-- No record is built. -/
  targetType : s.targetType = .absent
  /-- Properties are declared once. -/
  names : (s.declared.map Prod.fst).Nodup

end Keywords

/-- Below a node values with certain texts and doubles are kept. No text becomes a date, no property
is left out, alternatives read no text as something else, and no schema tells a whole double from
the whole number. -/
structure Registry.Keeps (registry : Registry) (T : String → Prop) (F : Binary64 → Prop)
    (node : Node) : Prop where
  /-- No dates are made. -/
  dates : ∀ s, registry.Reaches Keywords.castNodes node s → Casting.asksForDates s = false
  /-- Undeclared properties are kept, or forbidden. -/
  extra : ∀ s, registry.Reaches Keywords.castNodes node s →
    Casting.keepsExtra s = true ∨ s.additional = .flag false
  /-- Alternatives are tried on values that do not conform to them, and convert no text in them. -/
  alternatives : ∀ s, registry.Reaches Keywords.castNodes node s → ∀ c ∈ Casting.alternatives s,
    ∀ t, registry.Reaches Keywords.castNodes c t → t.Spares T
  /-- Whole doubles are as good as whole numbers. -/
  conflates : ∀ s, registry.Reaches Keywords.children node s → ∀ x, F x → s.Conflates x

namespace Registry.Keeps

variable {registry : Registry} {T : String → Prop} {F : Binary64 → Prop}

/-- What is kept below a name is kept below what it stands for. -/
lemma ref {name : String} {target : Node} (h : registry.Keeps T F (.ref name))
    (hget : registry.get? name = some target) : registry.Keeps T F target where
  dates s hs := h.dates s (.ref hget hs)
  extra s hs := h.extra s (.ref hget hs)
  alternatives s hs := h.alternatives s (.ref hget hs)
  conflates s hs := h.conflates s (.ref hget hs)

/-- What is kept below a schema is kept below the nodes that it hands values to. -/
lemma child {s : Schema} {c : Node} (h : registry.Keeps T F (.schema s)) (hc : c ∈ s.castNodes) :
    registry.Keeps T F c where
  dates t ht := h.dates t (.child hc ht)
  extra t ht := h.extra t (.child hc ht)
  alternatives t ht := h.alternatives t (.child hc ht)
  conflates t ht := h.conflates t (.child (Keywords.mem_children_of_cast hc) ht)

end Registry.Keeps

namespace Casting

open Validation Conformance

variable {T : String → Prop} {F : Binary64 → Prop}

/-- A value conforms to a node, or no schema that casts it converts one of certain texts. -/
def Fits (registry : Registry) (T : String → Prop) (depth : Nat) (node : Node) (v : Value) : Prop :=
  conforms registry depth node v = true ∨
    ∀ s, registry.Reaches Keywords.castNodes node s → s.Spares T

/-- What conforms to a schema, and is not null where null is allowed, meets all keywords. -/
lemma meetsKeywords_of_meetsSchema {test : NodeTest} {s : Schema} {v : Value}
    (hnull : (v.isNull && s.nullable.isTruthy) = false) (h : meetsSchema test s v = true) :
    meetsKeywords test s v = true := by
  rw [meetsSchema, hnull, Bool.false_or, Bool.and_eq_true] at h
  exact h.2

section parts

variable {registry : Registry} {depth : Nat} {s : Schema} {v : Value}

/-- The type of a value is right, or no text is converted. -/
lemma Fits.type (h : Fits registry T (depth + 1) (.schema s) v)
    (hnull : (v.isNull && s.nullable.isTruthy) = false) :
    meetsType s v = true ∨ s.Spares T := by
  refine h.imp (fun hmeets => ?_) fun hspares => hspares s (.here s)
  have hall := meetsKeywords_of_meetsSchema hnull hmeets
  simp only [meetsKeywords, Bool.and_eq_true] at hall
  exact hall.1.1.1.1.1

/-- A property of a value that fits a schema fits the node that applies to it. -/
lemma Fits.property {data : Entries} (h : Fits registry T (depth + 1) (.schema s) (.mapping data))
    {name : String} {w : Value} {c : Node} (hw : data.get? (.str name) = some w)
    (hc : s.propertyNode? name = some c) : Fits registry T depth c w := by
  have hmem := Keywords.mem_castNodes_of_part (Keywords.mem_partNodes_property hc)
  refine h.imp (fun hmeets => ?_) fun hspares t ht => hspares t (.child hmem ht)
  have hall := meetsKeywords_of_meetsSchema rfl hmeets
  simp only [meetsKeywords, Bool.and_eq_true] at hall
  exact Keywords.property_meets hall.1.1.2 hw hc

/-- An item of a value that fits a schema fits the node for items. -/
lemma Fits.item {items : List Value} (h : Fits registry T (depth + 1) (.schema s) (.list items))
    {w : Value} (hw : w ∈ items) {c : Node} (hc : s.items = some c) :
    Fits registry T depth c w := by
  have hmem := Keywords.mem_castNodes_of_part (Keywords.mem_partNodes_items hc)
  refine h.imp (fun hmeets => ?_) fun hspares t ht => hspares t (.child hmem ht)
  have hall := meetsKeywords_of_meetsSchema rfl hmeets
  simp only [meetsKeywords, Bool.and_eq_true] at hall
  have hitems : meetsItems (conforms registry depth) s items = true := hall.1.2
  simp only [meetsItems, hc, Option.all_some, Bool.and_eq_true] at hitems
  exact List.all_eq_true.1 hitems.1.1.1 w hw

/-- A value like one that meets all keywords conforms to the members of the composition. -/
lemma member_meets (hkeep : registry.Keeps T F (.schema s)) (hv : v.IsJsonOf T F)
    (hmeets : meetsKeywords (conforms registry depth) s v = true) {c : Node}
    (hc : c ∈ s.allOfList) {w : Value} (hw : v.Alike w) : conforms registry depth c w = true := by
  simp only [meetsKeywords, meetsComposition, Bool.and_eq_true] at hmeets
  rw [← conforms_alike depth (hkeep.child (Keywords.mem_castNodes_allOf hc)).conflates v w hv hw]
  exact List.all_eq_true.1 hmeets.2.1.1.1 c hc

end parts

section schema

variable {context : CastContext} {depth : Nat} {s : Schema} {v r : Value} {path : Path}
  {active : List String}

/-- What the nodes below a schema keep: JSON values that fit them. -/
def KeepsBelow (T : String → Prop) (F : Binary64 → Prop) (context : CastContext) (depth : Nat)
    (s : Schema) : Prop :=
  ∀ c ∈ s.castNodes, ∀ w r path active, w.IsJsonOf T F → Fits context.registry T depth c w →
    (castNode context depth c w path active).outcome = .ok r → w.Alike r

/-- The shape of a schema keeps a value that fits it. -/
lemma KeepsBelow.own (hbelow : KeepsBelow T F context depth s) (hdirect : s.IsDirect)
    (hkeep : context.registry.Keeps T F (.schema s)) (hv : v.IsJsonOf T F)
    (hfits : Fits context.registry T (depth + 1) (.schema s) v)
    (hnull : (v.isNull && s.nullable.isTruthy) = false)
    (h : (castOwn (castNode context depth) s v path active).outcome = .ok r) : v.Alike r := by
  refine castOwn_alike hv hdirect.names (hkeep.extra s (.here s)) (hkeep.dates s (.here s))
    (hfits.type hnull) ?_ ?_ h
  · rintro data rfl name w c hw hc p r hcast
    exact hbelow c (Keywords.mem_castNodes_of_part (Keywords.mem_partNodes_property hc)) w r p
      active (hv.property (Entries.mem_of_get? hw)) (hfits.property hw hc) hcast
  · rintro items rfl w hw c hc p r hcast
    exact hbelow c (Keywords.mem_castNodes_of_part (Keywords.mem_partNodes_items hc)) w r p
      active (hv.item rfl hw) (hfits.item hw hc) hcast

/-- A member of a composition keeps what is like a value that fits the schema. -/
lemma KeepsBelow.member (hbelow : KeepsBelow T F context depth s)
    (hkeep : context.registry.Keeps T F (.schema s)) (hv : v.IsJsonOf T F)
    (hfits : Fits context.registry T (depth + 1) (.schema s) v)
    (hnull : (v.isNull && s.nullable.isTruthy) = false) {c : Node} (hc : c ∈ s.allOfList)
    {w : Value} (hw : v.Alike w) (hr : (castNode context depth c w path active).outcome = .ok r) :
    w.Alike r := by
  have hmem := Keywords.mem_castNodes_allOf hc
  refine hbelow c hmem w r path active (hw.isJsonOf hv) (hfits.imp (fun hmeets => ?_) ?_) hr
  · exact member_meets hkeep hv (meetsKeywords_of_meetsSchema hnull hmeets) hc hw
  · exact fun hspares t ht => hspares t (.child hmem ht)

/-- An alternative keeps what is like a value. -/
lemma KeepsBelow.alternative (hbelow : KeepsBelow T F context depth s)
    (hkeep : context.registry.Keeps T F (.schema s)) (hv : v.IsJsonOf T F) {c : Node}
    (hc : c ∈ alternatives s) {w : Value} (hw : v.Alike w)
    (hr : (castNode context depth c w path active).outcome = .ok r) : w.Alike r :=
  hbelow c (Keywords.mem_castNodes_alternatives hc) w r path active (hw.isJsonOf hv)
    (.inr (hkeep.alternatives s (.here s) c hc)) hr

end schema

/-- **Casts keep JSON values**: below a node that keeps values, what is made of a value is like it,
if it conforms to the node or no text in it is converted.

**Proof sketch.** Induction along the cast. A part of a value that conforms, conforms to the node
that casts it. A member of a composition casts a value like the one at hand, and so one that
conforms to the member. Alternatives convert no text at all. -/
theorem castNode_alike {context : CastContext} {depth : Nat} {node : Node}
    (hdirect : ∀ s, context.registry.Reaches Keywords.castNodes node s → s.IsDirect)
    (hkeep : context.registry.Keeps T F node) {v r : Value} {path : Path} {active : List String}
    (hv : v.IsJsonOf T F) (hfits : Fits context.registry T depth node v)
    (h : (castNode context depth node v path active).outcome = .ok r) : v.Alike r := by
  refine castNode_induction (N := Keywords.castNodes)
    (H := fun s => s.IsDirect ∧ context.registry.Keeps T F (.schema s))
    (M := fun depth c v r _ => v.IsJsonOf T F → Fits context.registry T depth c v → v.Alike r)
    ?_ ?_ ?_ (fun s hreach => ⟨hdirect s hreach, ?_⟩) h hv hfits
  · intro depth name s v r path hget halike hv hfits
    refine halike hv (hfits.imp (fun hmeets => ?_) fun hspares t ht => hspares t (.ref hget ht))
    rwa [DataSchema.conforms, hget] at hmeets
  · intro depth name other v r path hget halike hv hfits
    refine halike hv (hfits.imp (fun hmeets => ?_) fun hspares t ht => hspares t (.ref hget ht))
    rwa [DataSchema.conforms, hget] at hmeets
  · rintro depth s v r path active ⟨hdirect, hkeep⟩ hchild h hv hfits
    have hbelow : KeepsBelow T F context depth s := fun c hc w r path active hw hfits hcast =>
      hchild c hc w r path active hcast hw hfits
    rcases (castSchema_outcome_ok hdirect.discriminator).1 h with ⟨hnull, rfl⟩ | ⟨hnull, -, hcast⟩
    · cases hv with
      | null => exact .same _
      | _ => cases hnull
    · obtain ⟨own, all, result, hown, hall, hresult, -, hrecord⟩ := castComposed_outcome_ok.1 hcast
      obtain rfl := materialize_outcome_ok hdirect.targetType hrecord
      have halike := hbelow.own hdirect hkeep hv hfits hnull hown
      have halike' := castAllOf_alike hv halike
        (fun c hc w r hw hr => hbelow.member hkeep hv hfits hnull hc hw hr) hall
      exact castAlternative_alike hv halike'
        (fun c hc w r hw hr => hbelow.alternative hkeep hv hc hw hr) hresult
  · exact hreach.of_closed (Q := context.registry.Keeps T F) (fun _ _ hk hget => hk.ref hget)
      (fun _ _ hk hc => hk.child hc) hkeep

end Casting

end DataSchema
