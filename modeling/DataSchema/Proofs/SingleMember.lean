import Mathlib
import DataSchema.Proofs.ConformingData
import DataSchema.Proofs.PassedOver
import DataSchema.Proofs.TypedParts

set_option autoImplicit false

/-!
# Schemas with a single member

A schema whose only keyword is one member casts an object by this member, reads the result back as a
mapping, and checks the mapping against the member. So the object is cast one level deeper, and the
result is looked at once more. If the member is a schema for objects, then the detour succeeds where
the result passes this second look, and both results hold the same under declared names, except that
a null field of a record is not read back.

## Main definitions

* `DataSchema.Keywords.ofMember` — the schema whose only keyword is one member.
* `DataSchema.Keywords.IsObjectSchema` — schemas for objects that compose and select no others.
* `DataSchema.Registry.IsScalar` — nodes that convert scalars and do no more.
* `DataSchema.Entries.KeptOf` — entries that are left of others.
* `DataSchema.Value.held?` — what an object holds under a name.

## Main results

* `DataSchema.Casting.castSchema_ofMember` — what a schema with a single member makes of an object.
* `DataSchema.Casting.castNode_of_parts` — an object is cast with any depth left if its parts are.
* `DataSchema.Validation.checkNode_object` — when nothing is found in an object.
* `DataSchema.cast_ofMember` — casts of whole values.
-/

namespace DataSchema

/-! ## The schema around a member -/

/-- The schema whose only keyword is one member. -/
def Keywords.ofMember (c : Node) : Schema := { allOf := some [c] }

namespace Validation

/-- An object is checked against a single member. -/
lemma checkSchema_ofMember (check : NodeChecker) (c : Node) (es : Entries) (path : Path) :
    checkSchema check (.ofMember c) (.mapping es) path = check c (.mapping es) path := by
  have hmembers : gather (Keywords.ofMember c).allOfList
      (fun node => check node (.mapping es) path) = check c (.mapping es) path := by
    show gather [c] _ = _
    rw [gather_cons, gather_nil]
    rcases check c (.mapping es) path with f | is
    · rfl
    · exact congrArg Except.ok (List.append_nil is)
  unfold checkSchema checkKeywords checkComposition
  rw [hmembers]
  rcases check c (.mapping es) path with f | is
  · rfl
  · refine congrArg Except.ok ?_
    show is ++ [] ++ [] ++ [] = is
    simp only [List.append_nil]

end Validation

namespace Casting

variable {context : CastContext} {child : NodeCaster} {check : NodeChecker} {c : Node}
  {es : Entries} {r : Value} {path : Path} {active : List String}

/-- **What a schema with a single member makes of an object**: the member makes an object of it,
whose entries have to conform to the member. -/
lemma castSchema_ofMember (hes : es.KeysDistinct) :
    (castSchema context child check (.ofMember c) (.mapping es) path active).outcome = .ok r ↔
      ∃ part, (child c (.mapping es) path active).outcome = .ok part ∧ part.isObject = true ∧
        check (.schema (.ofMember c)) (.mapping (Entries.merge [] part.entries)) path = .ok [] ∧
        r = .mapping (Entries.merge [] part.entries) := by
  have hown : castOwn child (.ofMember c) (.mapping es) path active = pure (.mapping es) := rfl
  have hoverlay : overlay (.mapping es) (.mapping es) = es := hes.merge_self
  have hall : ∀ all, (castAllOf child (.ofMember c) (.mapping es) (.mapping es) path
      active).outcome = .ok all ↔ ∃ part, (child c (.mapping es) path active).outcome = .ok part ∧
        part.isObject = true ∧ all = .mapping (Entries.merge [] part.entries) := by
    intro all
    show (castMembers child path active []
      (overlay (.mapping es) (.mapping es)) [c]).outcome = _ ↔ _
    rw [hoverlay, castMembers, bind_outcome_ok]
    refine exists_congr fun part => and_congr_right fun _ => ?_
    cases part.isObject with
    | true => simp [castMembers, eq_comm]
    | false => simp [failCast, fail]
  have hwhole : ∀ all, (requireWhole check (.ofMember c) all path).outcome = .ok () ↔
      check (.schema (.ofMember c)) all path = .ok [] := by
    intro all
    rw [requireWhole_eq]
    show (require (check (.schema (.ofMember c)) all path) >>= fun _ => pure ()).outcome = _ ↔ _
    rw [bind_pure, require_outcome_ok]
  have hplain : ∀ all, castAlternative child check (.ofMember c) (.mapping es) all path active =
      pure all := fun all => castAlternative_eq_pure rfl _ all path active
  rw [castSchema_outcome_ok rfl, or_iff_right (fun h => Bool.false_ne_true h.1),
    castComposed_outcome_ok]
  simp only [hown, hplain, hwhole, materialize_eq_pure (s := Keywords.ofMember c) rfl,
    Traced.outcome_pure, Except.ok.injEq]
  constructor
  · rintro ⟨-, -, own, all, result, rfl, hall', rfl, hchecked, rfl⟩
    obtain ⟨part, hpart, hobject, rfl⟩ := (hall all).1 hall'
    exact ⟨part, hpart, hobject, hchecked, rfl⟩
  · rintro ⟨part, hpart, hobject, hchecked, rfl⟩
    exact ⟨rfl, rfl, _, _, _, rfl, (hall _).2 ⟨part, hpart, hobject, rfl⟩, rfl, hchecked, rfl⟩

end Casting

/-! ## Schemas for objects -/

/-- A schema for objects, whatever its properties are: it lists no values, composes and selects no
other schemas, and declares once what it requires. -/
structure Keywords.IsObjectSchema (s : Schema) : Prop where
  /-- An object is asked for. -/
  type : s.type = some .object
  /-- No values are listed. -/
  enum : s.enum = none
  /-- The format, if there is one, can be looked up. -/
  format : s.format.isKey = true
  /-- There are no members and no alternatives. -/
  plain : s.isComposed = false
  /-- There is nothing that must not match. -/
  notSchema : s.notSchema = none
  /-- No other schema is selected. -/
  discriminator : s.discriminator = none
  /-- Properties are declared once. -/
  names : (s.declared.map Prod.fst).Nodup
  /-- Required properties are declared. -/
  required : ∀ n ∈ s.required, s.declares n = true

namespace Casting

variable {context : CastContext} {child child' : NodeCaster} {check : NodeChecker} {s : Schema}
  {es result : Entries} {r : Value} {path : Path} {active : List String}

/-- What a cast of the entries of a mapping comes from. -/
lemma castObject_entries :
    (castObject child s (.mapping es) path active).outcome = .ok (.mapping result) ↔
      ∃ declared others, (∀ n ∈ s.required, n.isKey = true ∧ es.has n = true) ∧
        (s.additional = .flag false → Validation.undeclared s es = []) ∧
        (castDeclared child es path active s.declared).outcome = .ok declared ∧
        (castExtra child s (Validation.undeclared s es) path active).outcome = .ok others ∧
        Validation.below result.length s.minProperties = .ok false ∧
        Validation.above result.length s.maxProperties = .ok false ∧
        result = declared ++ others := by
  rw [castObject_outcome_ok]
  constructor
  · rintro ⟨data, declared, others, hdata, hthere, hforbidden, hdeclared, hothers, hfew, hmany, heq⟩
    obtain rfl := Option.some.inj hdata
    obtain rfl := Value.mapping.inj heq
    exact ⟨declared, others, hthere, hforbidden, hdeclared, hothers, hfew, hmany, rfl⟩
  · rintro ⟨declared, others, hthere, hforbidden, hdeclared, hothers, hfew, hmany, rfl⟩
    exact ⟨es, declared, others, rfl, hthere, hforbidden, hdeclared, hothers, hfew, hmany, rfl⟩

/-- A schema for objects casts an object property by property, and builds the record that it asks
for. -/
lemma castSchema_object (hs : s.IsObjectSchema) :
    (castSchema context child check s (.mapping es) path active).outcome = .ok r ↔
      ∃ result, (castObject child s (.mapping es) path active).outcome = .ok (.mapping result) ∧
        (materialize context.types s (.mapping result) path).outcome = .ok r := by
  have hcasts : castsObject s (.mapping es) = true := by rw [castsObject, hs.type]
  have hrefuse : ∀ own, (refuseMatch check s own path).outcome = .ok () := fun own => by
    rw [refuseMatch, hs.notSchema]
    rfl
  rw [castSchema_outcome_ok hs.discriminator, or_iff_right (fun h => Bool.false_ne_true h.1),
    castComposed_uncomposed hs.plain, castOwn, hcasts, if_pos rfl]
  constructor
  · rintro ⟨-, -, own, hown, -, hmaterial⟩
    obtain ⟨data, declared, others, -, -, -, -, -, -, -, rfl⟩ := castObject_outcome_ok.1 hown
    exact ⟨_, hown, hmaterial⟩
  · rintro ⟨result, hown, hmaterial⟩
    exact ⟨rfl, rfl, _, hown, hrefuse _, hmaterial⟩

/-! ### Parts of objects -/

/-- Where the undeclared properties of an object are cast by a node, each is. -/
lemma castExtra_cast {extra others : Entries} {c : Node} (hc : s.additional = .schema c)
    (h : (castExtra child s extra path active).outcome = .ok others) {e : Value × Value}
    (he : e ∈ extra) : ∃ q w, (child c e.2 q active).outcome = .ok w := by
  have hall := ((castExtra_eq_ok hc).1 h).imp
    (S := fun e f => (∃ q w, (child c e.2 q active).outcome = .ok w) ∧ e.1 = f.1)
    fun e f hef => ⟨⟨_, _, hef.1⟩, hef.2⟩
  exact ((List.forall₂_and_left _ _).1 hall).1 e he

/-- **Where an object is cast, its parts are**: what is described is cast by the node that describes
it. -/
lemma castObject_described
    (h : (castObject child s (.mapping es) path active).outcome = .ok (.mapping result))
    {c : Node} {u : Value} (hdescribes : s.Describes (.mapping es) c u) :
    ∃ q w, (child c u q active).outcome = .ok w := by
  obtain ⟨declared, others, -, -, hdeclared, hothers, -⟩ := castObject_entries.1 h
  cases hdescribes with
  | property hc hu =>
    rcases castDeclared_get? hdeclared hc with ⟨hnone, -⟩ | ⟨v, w, hv, hw, -⟩
    · rw [hnone] at hu
      cases hu
    · obtain rfl := Option.some.inj (hv.symm.trans hu)
      exact ⟨_, w, hw⟩
  | additional hc he => exact castExtra_cast hc hothers he
  | item _ hitems => cases hitems

/-- Declared properties are cast alike by nodes that cast each of them alike. -/
lemma castDeclared_of_parts {data declared : Entries} {ps : List (String × Node)}
    (hchild : ∀ p ∈ ps, ∀ u, data.get? (.str p.1) = some u → ∀ q w,
      (child p.2 u q active).outcome = .ok w → (child' p.2 u q active).outcome = .ok w)
    (h : (castDeclared child data path active ps).outcome = .ok declared) :
    (castDeclared child' data path active ps).outcome = .ok declared := by
  induction ps generalizing declared with
  | nil => exact h
  | cons p ps ih =>
    have hrest : ∀ others, (castDeclared child data path active ps).outcome = .ok others →
        (castDeclared child' data path active ps).outcome = .ok others :=
      fun others => ih fun p' hp' => hchild p' (List.mem_cons_of_mem p hp')
    unfold castDeclared at h ⊢
    split at h
    next hnone =>
      exact hrest declared h
    next u hu =>
      obtain ⟨w, hw, h⟩ := bind_outcome_ok.1 h
      obtain ⟨others, hothers, h⟩ := bind_outcome_ok.1 h
      refine bind_outcome_ok.2 ⟨w, hchild p List.mem_cons_self u hu _ w hw, ?_⟩
      exact bind_outcome_ok.2 ⟨others, hrest others hothers, h⟩

/-- Undeclared properties are cast alike by nodes that cast each of them alike. -/
lemma castExtra_of_parts {extra others : Entries}
    (hchild : ∀ c, s.additional = .schema c → ∀ e ∈ extra, ∀ q w,
      (child c e.2 q active).outcome = .ok w → (child' c e.2 q active).outcome = .ok w)
    (h : (castExtra child s extra path active).outcome = .ok others) :
    (castExtra child' s extra path active).outcome = .ok others := by
  cases hnode : s.additional.node? with
  | none =>
    rw [castExtra_eq_pure hnode] at h ⊢
    exact h
  | some c =>
    have hc := Additional.node?_eq_some.1 hnode
    rw [castExtra_eq_ok hc] at h ⊢
    refine ((List.forall₂_and_left _ _).2 ⟨hchild c hc, h⟩).imp fun e f hef => ?_
    exact ⟨hef.1 _ _ hef.2.1, hef.2.2⟩

/-- **Objects are cast alike** by nodes that cast alike what they describe of the object. -/
lemma castObject_of_parts (hnames : (s.declared.map Prod.fst).Nodup)
    (hchild : ∀ c u, s.Describes (.mapping es) c u → ∀ q w,
      (child c u q active).outcome = .ok w → (child' c u q active).outcome = .ok w)
    (h : (castObject child s (.mapping es) path active).outcome = .ok (.mapping result)) :
    (castObject child' s (.mapping es) path active).outcome = .ok (.mapping result) := by
  obtain ⟨declared, others, hthere, hforbidden, hdeclared, hothers, hcount⟩ :=
    castObject_entries.1 h
  refine castObject_entries.2 ⟨declared, others, hthere, hforbidden, ?_, ?_, hcount⟩
  · refine castDeclared_of_parts (fun p hp u hu => ?_) hdeclared
    exact hchild p.2 u (.property (lookup_eq_of_nodup hnames hp) hu)
  · exact castExtra_of_parts (fun c hc e he => hchild c e.2 (.additional hc he)) hothers

/-- What is described of a result is what the node that describes it has made. -/
lemma castObject_made_of (h : (castObject child s (.mapping es) path active).outcome =
      .ok (.mapping result)) {c : Node} {w : Value}
    (hdescribes : s.Describes (.mapping result) c w) :
    ∃ u q, (child c u q active).outcome = .ok w := by
  obtain ⟨declared, others, -, -, hdeclared, hothers, -, -, rfl⟩ := castObject_entries.1 h
  cases hdescribes with
  | property hc hw =>
    obtain ⟨u, hu⟩ := Soundness.property_result hdeclared hothers hc hw
    exact ⟨u, _, hu⟩
  | additional hc he =>
    rw [Soundness.undeclared_result_eq hdeclared hothers] at he
    obtain ⟨u, -, hu⟩ := castExtra_schema hc hothers _ he
    exact ⟨u, _, hu⟩
  | item _ hitems => cases hitems

/-- **An object is cast with any depth left if its parts are**, to the result that it is cast to
with some. -/
lemma castNode_of_parts (hs : s.IsObjectSchema) {depth depth' : Nat}
    (h : (castNode context (depth' + 1) (.schema s) (.mapping es) path active).outcome = .ok r) :
    (castNode context (depth + 1) (.schema s) (.mapping es) path active).outcome = .ok r ↔
      ∀ c u, s.Describes (.mapping es) c u →
        ∃ w, (castNode context depth c u [] active).outcome = .ok w := by
  constructor
  · intro hless c u hdescribes
    obtain ⟨result, hresult, -⟩ := (castSchema_object hs).1 hless
    obtain ⟨q, w, hw⟩ := castObject_described hresult hdescribes
    exact ⟨w, castNode_mono rfl rfl le_rfl [] hw⟩
  · intro hparts
    obtain ⟨result, hresult, hmaterial⟩ := (castSchema_object hs).1 h
    refine (castSchema_object hs).2 ⟨result, ?_, hmaterial⟩
    refine castObject_of_parts hs.names (fun c u hdescribes q w hw => ?_) hresult
    obtain ⟨w', hw'⟩ := hparts c u hdescribes
    obtain rfl := castNode_det rfl rfl hw' hw
    exact castNode_mono rfl rfl le_rfl q hw'

end Casting

namespace Validation

variable {registry : Registry} {limit : Int} {check : NodeChecker} {s : Schema} {es : Entries}
  {path : Path} {depth : Nat}

/-- Of the keywords of a schema for objects only those for objects apply to an object. -/
lemma checkSchema_object (hs : s.IsObjectSchema) :
    checkSchema check s (.mapping es) path = checkObject check s (.mapping es) path := by
  have htype : checkType s (.mapping es) path = [] :=
    Soundness.checkType_eq_nil_of_hasType (by simp only [hasType, hs.type]; rfl)
  have hformat : checkScalar s (.mapping es) path = .ok [] := by
    rw [checkScalar_eq_format (.inl rfl), checkFormatKeyword_eq]
    rcases Soundness.checkFormat_container (r := .mapping es) (.inl rfl) s.format with h | ⟨-, hkey⟩
    · rw [h]
      rfl
    · rw [hs.format] at hkey
      cases hkey
  show checkKeywords check s (.mapping es) path = _
  unfold checkKeywords
  rw [htype, hformat, checkComposition_eq_nil_of_plain hs.plain hs.notSchema,
    Soundness.checkEnum_eq_nil_of_none hs.enum]
  rcases checkObject check s (.mapping es) path with f | is
  · rfl
  · refine congrArg Except.ok ?_
    show is ++ [] ++ [] = is
    rw [List.append_nil, List.append_nil]

/-- **When nothing is found in an object** that has the required properties, none that are
forbidden, and not too many: it has enough of them, and nothing is found in its parts. -/
lemma checkNode_object (hs : s.IsObjectSchema)
    (hrequired : ∀ n ∈ s.required, n.isKey = true ∧ es.has n = true)
    (hforbidden : s.additional = .flag false → undeclared s es = [])
    (hmany : above es.length s.maxProperties = .ok false) :
    checkNode registry limit (depth + 1) (.schema s) (.mapping es) path = .ok [] ↔
      below es.length s.minProperties = .ok false ∧
        ∀ c u, s.Describes (.mapping es) c u →
          checkNode registry limit depth c u [] = .ok [] := by
  have heq : checkNode registry limit (depth + 1) (.schema s) (.mapping es) path =
      checkObject (checkNode registry limit depth) s (.mapping es) path := checkSchema_object hs
  rw [heq]
  constructor
  · intro h
    obtain ⟨hdeclared, -, hadditional, hfew, -⟩ := checkObject_eq_ok_nil h
    refine ⟨hfew, fun c u hdescribes => ?_⟩
    cases hdescribes with
    | @property _ name _ _ hc hu =>
      have hproperty := gather_eq_nil.1 hdeclared (name, c) (mem_of_lookup hc)
      rw [hu] at hproperty
      exact checkNode_elsewhere hproperty []
    | additional hc he =>
      rw [checkAdditional, hc] at hadditional
      exact checkNode_elsewhere (gather_eq_nil.1 hadditional _ he) []
    | item _ hitems => cases hitems
  · rintro ⟨hfew, hparts⟩
    have hdeclared : checkProperties (checkNode registry limit depth) s es path = .ok [] := by
      refine gather_eq_nil.2 fun p hp => ?_
      split
      next u hu =>
        have hlookup := lookup_eq_of_nodup hs.names hp
        exact checkNode_elsewhere (hparts p.2 u (.property hlookup hu)) _
      next => rfl
    have hadditional : checkAdditional (checkNode registry limit depth) s es path = .ok [] := by
      unfold checkAdditional
      split
      next => rfl
      next => rfl
      next hflag =>
        rw [hforbidden hflag]
        rfl
      next c hc =>
        exact gather_eq_nil.2 fun e he => checkNode_elsewhere (hparts c e.2 (.additional hc he)) _
    exact Soundness.checkObject_of_parts hdeclared hrequired hadditional hfew hmany

end Validation

/-! ## Results that are read back -/

/-- What an object holds under a name: the value of the key, or of the field. -/
def Value.held? (v : Value) (name : String) : Option Value :=
  match v with
  | .mapping es => Entries.get? es (.str name)
  | .record _ fields | .openRecord _ fields => fields.lookup name
  | _ => none

/-- Entries that are left of others: they are among these, and name no value that is not there. -/
structure Entries.KeptOf (part es : Entries) : Prop where
  /-- They are some of the entries. -/
  mem : ∀ e ∈ part, e ∈ es
  /-- Under a name there is what is there. -/
  found : ∀ name v, Entries.get? part (.str name) = some v → Entries.get? es (.str name) = some v
  /-- They are no more than all. -/
  length_le : part.length ≤ es.length
  /-- Their keys are distinct. -/
  distinct : part.KeysDistinct

namespace Entries.KeptOf

variable {part es : Entries} {s : Schema}

/-- All of the entries may be left. -/
lemma refl (h : es.KeysDistinct) : es.KeptOf es := ⟨fun _ he => he, fun _ _ hv => hv, le_rfl, h⟩

/-- Entries with names that are some of others are left of them. -/
lemma of_isPart (h : Validation.IsPart part es) : part.KeptOf es where
  mem e he := by
    obtain ⟨name, hname, hvalue⟩ := h.values e he
    obtain ⟨k, v⟩ := e
    obtain rfl : k = .str name := hname
    exact mem_of_get? hvalue
  found name v hv := h.get? hv
  length_le := h.length_le
  distinct := by
    have hnamed : part.Named := ⟨fun e he => (h.values e he).imp fun _ hname => hname.1, h.keys⟩
    exact hnamed.keysDistinct

/-- What is undeclared among the entries that are left, is so among all. -/
lemma mem_undeclared (h : part.KeptOf es) {e : Value × Value}
    (he : e ∈ Validation.undeclared s part) : e ∈ Validation.undeclared s es := by
  obtain ⟨hmem, hnot⟩ := List.mem_filter.1 he
  exact List.mem_filter.2 ⟨h.mem e hmem, hnot⟩

/-- What is described of the entries that are left, is described of all. -/
lemma describes (h : part.KeptOf es) {c : Node} {u : Value}
    (hdescribes : s.Describes (.mapping part) c u) : s.Describes (.mapping es) c u := by
  cases hdescribes with
  | property hc hu => exact .property hc (h.found _ _ hu)
  | additional hc he => exact .additional hc (h.mem_undeclared he)
  | item _ hitems => cases hitems

end Entries.KeptOf

/-- The fields of a record that are not null are its entries. -/
lemma Value.entries_record (type : String) (fields : List (String × Value)) :
    (Value.record type fields).entries =
      (fields.filter fun f => !f.2.isNull).map fun f => (.str f.1, f.2) := by
  simp only [Value.entries, Value.objectView?, List.any_nil, Bool.or_false, Option.getD_some]

namespace RecordType

variable {s : Schema} {t : RecordType} {es : Entries} {r : Value}

/-- What is read back of a record, nothing being required, is left of the entries that it was built
of. -/
lemma Holds.keptOf (ht : t.Holds s) (h : t.build (t.accepted es) = .ok r) :
    r.isObject = true ∧ r.entries.KeptOf es := by
  have ht' : t.Holds { s with required := [] } := by
    cases ht with
    | declared hnames hfields hdefaults => exact .declared hnames hfields hdefaults
  obtain ⟨hobject, part, hview, hpart, -⟩ := Validation.isPart_objectView ht' h (by simp)
  refine ⟨hobject, ?_⟩
  rw [Value.entries, hview]
  exact .of_isPart hpart

/-- **A record holds what it was built of** under declared names, and it is read back unless it is
null. -/
lemma Holds.held (ht : t.Holds s) (h : t.build (t.accepted es) = .ok r) {p : String × Node}
    (hp : p ∈ s.declared) {w : Value} (hw : es.get? (.str p.1) = some w) :
    r.held? p.1 = some w ∧ r.entries.get? (.str p.1) = if w.isNull then none else some w := by
  have hkept := (ht.keptOf h).2
  cases ht with
  | @declared name fields hnames hfields hdefaults =>
    obtain rfl := build_declared h
    obtain ⟨f, hf, hname, hset⟩ := hfields p hp
    have hvalue : fieldValue es f = w := by
      rw [fieldValue, hset, if_pos rfl, hname, hw]
      rfl
    have hmem : (p.1, w) ∈ fields.map fun f => (f.name, fieldValue es f) :=
      List.mem_map.2 ⟨f, hf, by rw [hname, hvalue]⟩
    have hfst : (fields.map fun f => (f.name, fieldValue es f)).map Prod.fst =
        fields.map FieldSpec.name := by
      rw [List.map_map]
      rfl
    refine ⟨lookup_eq_of_nodup (p := (p.1, w)) (hfst ▸ hnames) hmem, ?_⟩
    rw [Value.entries_record] at hkept ⊢
    cases hnull : w.isNull with
    | true =>
      rw [if_pos rfl, Option.eq_none_iff_forall_ne_some]
      intro v hv
      obtain rfl := Option.some.inj ((hkept.found _ _ hv).symm.trans hw)
      obtain ⟨g, hg, heq⟩ := List.mem_map.1 (Entries.mem_of_get? hv)
      have hshown := (List.mem_filter.1 hg).2
      rw [(Prod.mk.inj heq).2, hnull] at hshown
      cases hshown
    | false =>
      rw [if_neg Bool.false_ne_true]
      refine hkept.distinct.get?_of_mem (e := (.str p.1, w)) (List.mem_map.2 ⟨(p.1, w), ?_, rfl⟩)
      exact List.mem_filter.2 ⟨hmem, by rw [hnull]; rfl⟩

end RecordType

namespace Casting

variable {context : CastContext} {child : NodeCaster} {s : Schema} {es result : Entries}
  {r : Value} {path : Path} {active : List String}

/-- What an object has to have is there where it is cast. -/
lemma castObject_requires
    (h : (castObject child s (.mapping es) path active).outcome = .ok (.mapping result)) :
    ∀ n ∈ s.required, es.has n = true := by
  obtain ⟨declared, others, hthere, -⟩ := castObject_entries.1 h
  exact fun n hn => (hthere n hn).2

/-- The keys of a result are distinct if those of the object are. -/
lemma castObject_distinct (hnames : (s.declared.map Prod.fst).Nodup) (hes : es.KeysDistinct)
    (h : (castObject child s (.mapping es) path active).outcome = .ok (.mapping result)) :
    result.KeysDistinct := by
  obtain ⟨declared, others, -, -, hdeclared, hothers, -, -, rfl⟩ := castObject_entries.1 h
  exact castObject_keysDistinct hes hnames hdeclared hothers

/-- Declared properties that are there are there in the result. -/
lemma castObject_has (hnames : (s.declared.map Prod.fst).Nodup)
    (h : (castObject child s (.mapping es) path active).outcome = .ok (.mapping result))
    {p : String × Node} (hp : p ∈ s.declared) (hhas : es.has (.str p.1) = true) :
    ∃ w, result.get? (.str p.1) = some w := by
  obtain ⟨declared, others, -, -, hdeclared, hothers, -, -, rfl⟩ := castObject_entries.1 h
  have hdeclares : s.declares (.str p.1) = true := Keywords.declares_iff.2 ⟨p, hp, rfl⟩
  rw [Soundness.get?_result hothers hdeclares]
  have hlookup := lookup_eq_of_nodup hnames hp
  rcases castDeclared_get? hdeclared hlookup with ⟨hnone, -⟩ | ⟨v, w, -, -, hw⟩
  · rw [Entries.has, hnone] at hhas
    cases hhas
  · exact ⟨w, hw⟩

/-- **What is built of a result** is an object whose entries are left of it, and which holds the
same under declared names. What it holds there is read back, unless it is a null of a record. -/
lemma materialize_held (htarget : ∀ t, s.targetType.resolve? context.types = some t → t.Holds s)
    (hdistinct : result.KeysDistinct)
    (h : (materialize context.types s (.mapping result) path).outcome = .ok r) :
    r.isObject = true ∧ r.entries.KeptOf result ∧
      ∀ p ∈ s.declared, ∀ w, result.get? (.str p.1) = some w → r.held? p.1 = some w ∧
        (r.entries.get? (.str p.1) = some w ∨
          s.targetType ≠ .absent ∧ w = .null ∧ r.entries.get? (.str p.1) = none) := by
  rcases materialize_cases h with rfl | ⟨t, fs, ht, heq, hbuild⟩
  · exact ⟨rfl, .refl hdistinct, fun p _ w hw => ⟨hw, .inl hw⟩⟩
  · obtain rfl := Value.mapping.inj heq
    have hholds := htarget t ht
    obtain ⟨hobject, hkept⟩ := hholds.keptOf hbuild
    refine ⟨hobject, hkept, fun p hp w hw => ?_⟩
    obtain ⟨hheld, hread⟩ := hholds.held hbuild hp hw
    refine ⟨hheld, ?_⟩
    cases w with
    | null =>
      refine .inr ⟨fun habsent => ?_, rfl, hread⟩
      rw [habsent] at ht
      cases ht
    | _ => exact .inl hread

end Casting

/-! ## Scalars -/

/-- A schema converts scalars and does no more: it asks for a text, a number or a truth value, and
composes and selects no others. -/
structure Keywords.ConvertsScalars (s : Schema) : Prop where
  /-- A scalar is asked for. -/
  scalar : s.asksForScalar = true
  /-- There are no members and no alternatives. -/
  plain : s.isComposed = false
  /-- There is nothing that must not match. -/
  notSchema : s.notSchema = none
  /-- No other schema is selected. -/
  discriminator : s.discriminator = none

/-- A node stands for a schema that converts scalars and does no more, itself or by one name. -/
def Registry.IsScalar (registry : Registry) (c : Node) : Prop :=
  ∃ s name?, registry.resolve? c = some (.schema s, name?) ∧ s.ConvertsScalars

namespace Casting

variable {context : CastContext} {child child' : NodeCaster} {check check' : NodeChecker}
  {s : Schema} {c : Node} {v r : Value} {path : Path} {active : List String}

/-- A schema that converts scalars casts alike whatever the casts and checks below it. -/
lemma castSchema_scalar (hs : s.ConvertsScalars) :
    castSchema context child check s v path active =
      castSchema context child' check' s v path active := by
  obtain ⟨hobject, harray⟩ := castsParts_of_asksForScalar hs.scalar v
  have hmembers := (Keywords.isComposed_eq_false.1 hs.plain).1
  have hplain : s.hasAlternatives = false := (Bool.or_eq_false_iff.1 hs.plain).2
  have hown : castOwn child s v path active = castOwn child' s v path active := by
    unfold castOwn
    rw [hobject, harray]
    rfl
  have hwhole : ∀ check r, requireWhole check s r path = pure () := fun check r => by
    rw [requireWhole_eq, hs.plain, refuseMatch, hs.notSchema]
    rfl
  unfold castSchema castComposed
  rw [dispatch_eq_none hs.discriminator, dispatch_eq_none hs.discriminator, hown]
  simp only [castAllOf_eq_pure hmembers, castAlternative_eq_pure hplain, hwhole]

/-- A scalar of the type that a schema asks for conforms to it if it is allowed and meets the
keywords for scalars. -/
lemma checkSchema_scalar (hs : s.ConvertsScalars) (hobject : r.isObject = false)
    (harray : r.isArray = false) (htype : Validation.hasType s r = true)
    (henum : Validation.checkEnum s r path = [])
    (hscalar : Validation.checkScalar s r path = .ok []) :
    Validation.checkSchema check s r path = .ok [] := by
  have hnull : r.isNull = false := by
    have hasks := hs.scalar
    unfold Keywords.asksForScalar at hasks
    unfold Validation.hasType at htype
    cases r with
    | null => split at hasks <;> simp_all [Value.str?, Validation.isTemporal, Value.isInteger,
        Value.isNumber, Value.number?]
    | _ => rfl
  have hview : r.objectView? s.required = none := by
    cases r <;> simp_all [Value.isObject, Value.objectView?]
  have hitems : r.items? = none := by simpa [Value.isArray] using harray
  unfold Validation.checkSchema Validation.checkKeywords
  rw [hnull, Bool.false_and, if_neg Bool.false_ne_true, Bool.false_and, if_neg Bool.false_ne_true,
    Soundness.checkType_eq_nil_of_hasType htype, henum, hscalar, Validation.checkObject, hview,
    Validation.checkArray, hitems,
    Validation.checkComposition_eq_nil_of_plain hs.plain hs.notSchema]
  rfl

/-- What a schema that converts scalars makes conforms to it. -/
lemma checkSchema_of_castSchema_scalar (hs : s.ConvertsScalars)
    (h : (castSchema context child check s v path active).outcome = .ok r) :
    Validation.checkSchema check' s r path = .ok [] := by
  obtain ⟨hobject, harray⟩ := castsParts_of_asksForScalar hs.scalar v
  rcases (castSchema_outcome_ok hs.discriminator).1 h with ⟨hnull, rfl⟩ | ⟨-, -, hcast⟩
  · have hnullable : s.nullable.isTruthy = true := (Bool.and_eq_true_iff.1 hnull).2
    rw [Validation.checkSchema, hnullable]
    rfl
  · obtain ⟨own, hown, -, hmaterial⟩ := (castComposed_uncomposed hs.plain).1 hcast
    obtain ⟨hcast', -⟩ | ⟨-, hcast', -⟩ | ⟨-, -, hscalar, henum, hchecked⟩ :=
      castOwn_outcome_ok.1 hown
    · rw [hobject] at hcast'
      cases hcast'
    · rw [harray] at hcast'
      cases hcast'
    rcases (castScalar_outcome_ok.1 hscalar).scalarFrom with ⟨hnot, -⟩ | ⟨hnot, hnot', htype⟩
    · rw [hs.scalar] at hnot
      cases hnot
    · have hr : r = own := by
        rcases materialize_cases hmaterial with hr | ⟨t, fs, -, rfl, -⟩
        · exact hr
        · cases hnot
      rw [hr]
      exact checkSchema_scalar hs hnot hnot' htype henum hchecked

end Casting

/-! ## Nodes -/

namespace Registry.IsScalar

variable {context : CastContext} {c : Node} {v r : Value} {path : Path} {active : List String}
  {depth : Nat}

/-- A node that converts scalars casts alike with any depth left. -/
lemma cast_any (hc : context.registry.IsScalar c)
    (h : (Casting.castNode context depth c v path active).outcome = .ok r) (depth' : Nat) :
    (Casting.castNode context (depth' + 1) c v path active).outcome = .ok r := by
  obtain ⟨s, name?, hnode, hs⟩ := hc
  cases depth with
  | zero => cases h
  | succ depth =>
    rw [Casting.castNode_resolved hnode] at h ⊢
    rwa [Casting.castSchema_scalar hs] at h

/-- What a node that converts scalars makes conforms to it, with any depth left. -/
lemma conforms (hc : context.registry.IsScalar c)
    (h : (Casting.castNode context depth c v path active).outcome = .ok r) (limit : Int)
    (depth' : Nat) (path' : Path) :
    Validation.checkNode context.registry limit (depth' + 1) c r path' = .ok [] := by
  have hsome := hc.cast_any h 0
  obtain ⟨s, name?, hnode, hs⟩ := hc
  rw [Casting.castNode_resolved hnode] at hsome
  have hconforms : Validation.checkNode context.registry limit (depth' + 1) c r path = .ok [] := by
    rw [Validation.checkNode_resolved hnode]
    exact Casting.checkSchema_of_castSchema_scalar hs hsome
  exact Validation.checkNode_elsewhere hconforms path'

end Registry.IsScalar

namespace Casting

variable {context : CastContext} {s : Schema} {es result part : Entries} {r : Value}
  {depth depth' : Nat}

/-- An object is cast with some depth left if those of its parts are that are no mere scalars. -/
lemma castNode_of_nonscalars (hs : s.IsObjectSchema)
    (h : (castNode context (depth' + 1) (.schema s) (.mapping es) [] []).outcome = .ok r) :
    (castNode context (depth + 2) (.schema s) (.mapping es) [] []).outcome = .ok r ↔
      ∀ c u, s.Describes (.mapping es) c u → context.registry.IsScalar c ∨
        ∃ w, (castNode context (depth + 1) c u [] []).outcome = .ok w := by
  rw [castNode_of_parts hs h]
  refine forall_congr' fun c => forall_congr' fun u => imp_congr_right fun hdescribes => ?_
  refine (or_iff_right_of_imp fun hscalar => ?_).symm
  obtain ⟨result, hresult, -⟩ := (castSchema_object hs).1 h
  obtain ⟨q, w, hw⟩ := castObject_described hresult hdescribes
  exact ⟨w, castNode_mono rfl rfl le_rfl [] (hscalar.cast_any hw depth)⟩

/-- **The second look**: what is left of a result with all that is required conforms if it has
enough properties, and if those conform that do not merely convert scalars. -/
lemma checkNode_of_nonscalars (hs : s.IsObjectSchema)
    (h : (castObject (castNode context depth') s (.mapping es) [] []).outcome =
      .ok (.mapping result)) (hpart : part.KeptOf result)
    (hrequired : ∀ n ∈ s.required, part.has n = true) (limit : Int) :
    Validation.checkNode context.registry limit (depth + 2) (.schema s) (.mapping part) [] =
        .ok [] ↔
      Validation.below part.length s.minProperties = .ok false ∧
        ∀ c u, s.Describes (.mapping part) c u → context.registry.IsScalar c ∨
          Validation.checkNode context.registry limit (depth + 1) c u [] = .ok [] := by
  obtain ⟨declared, others, hthere, -, hdeclared, hothers, -, hmany, heq⟩ :=
    castObject_entries.1 h
  have hforbidden : s.additional = .flag false → Validation.undeclared s part = [] := by
    intro hflag
    refine List.eq_nil_iff_forall_not_mem.2 fun e he => ?_
    have hmem := hpart.mem_undeclared he
    rw [heq, Soundness.undeclared_result_eq_nil hflag hdeclared hothers] at hmem
    cases hmem
  rw [Validation.checkNode_object hs (fun n hn => ⟨(hthere n hn).1, hrequired n hn⟩) hforbidden
    (Validation.above_mono hpart.length_le hmany)]
  refine and_congr_right fun _ => forall_congr' fun c => forall_congr' fun u =>
    imp_congr_right fun hdescribes => ?_
  refine (or_iff_right_of_imp fun hscalar => ?_).symm
  obtain ⟨v, q, hv⟩ := castObject_made_of h (hpart.describes hdescribes)
  exact hscalar.conforms hv limit depth []

/-- The detour by a single member succeeds exactly if the object is cast one level deeper, and if
the result, read back, conforms to the member. -/
lemma castNode_ofMember (hes : es.KeysDistinct)
    (h : (castNode context depth' (.schema s) (.mapping es) [] []).outcome = .ok r)
    (hobject : r.isObject = true) (hr : r.entries.KeysDistinct) (r' : Value) (depth : Nat) :
    (castNode context (depth + 2) (.schema (.ofMember (.schema s))) (.mapping es) [] []).outcome =
        .ok r' ↔
      (castNode context (depth + 1) (.schema s) (.mapping es) [] []).outcome = .ok r ∧
        Validation.checkNode context.registry context.limit depth (.schema s)
          (.mapping r.entries) [] = .ok [] ∧
        r' = .mapping r.entries := by
  have hread : Entries.merge [] r.entries = r.entries := Entries.nil_merge hr.apart
  have hcheck : Validation.checkNode context.registry context.limit (depth + 1)
      (.schema (.ofMember (.schema s))) (.mapping r.entries) [] =
        Validation.checkNode context.registry context.limit depth (.schema s)
          (.mapping r.entries) [] :=
    Validation.checkSchema_ofMember _ _ _ _
  have hcast : castNode context (depth + 2) (.schema (.ofMember (.schema s))) (.mapping es) [] [] =
      castSchema context (castNode context (depth + 1))
        (Validation.checkNode context.registry context.limit (depth + 1)) (.ofMember (.schema s))
        (.mapping es) [] [] := rfl
  rw [hcast, castSchema_ofMember hes]
  constructor
  · rintro ⟨part, hpart, -, hconforms, rfl⟩
    obtain rfl := castNode_det rfl rfl h hpart
    rw [hread, hcheck] at hconforms
    rw [hread]
    exact ⟨hpart, hconforms, rfl⟩
  · rintro ⟨hpart, hconforms, rfl⟩
    refine ⟨r, hpart, hobject, ?_, by rw [hread]⟩
    rw [hread, hcheck]
    exact hconforms

end Casting

/-! ## Whole values -/

/-- A whole value is cast within a limit as it is by its node with as much depth left. -/
lemma cast_outcome_ok_within {context : CastContext} {limit : Int} {depth : Nat}
    (hdepth : limit.toNat = depth) {node : Node} {v r : Value} :
    (cast { context with limit := limit } node v).outcome = .ok (.ok r) ↔
      (Casting.castNode context depth node v [] []).outcome = .ok r := by
  rw [cast_outcome_ok, hdepth]
  constructor
  · exact Casting.castNode_mono (by rfl) (by rfl) (Nat.le_refl depth) []
  · exact Casting.castNode_mono (by rfl) (by rfl) (Nat.le_refl depth) []

/-- A whole value is checked within a limit as it is against its node with as much depth left. -/
lemma validate_eq_ok_within {registry : Registry} {limit limit' : Int} {depth : Nat}
    (hdepth : limit.toNat = depth) {node : Node} {v : Value} {is : List Issue} :
    validate registry node v limit = .ok is ↔
      Validation.checkNode registry limit' depth node v [] = .ok is := by
  rw [validate, hdepth]
  constructor
  · exact Validation.checkNode_mono (Nat.le_refl depth)
  · exact Validation.checkNode_mono (Nat.le_refl depth)

/-- **A single member is neutral but for a second look.** Let a schema for objects cast the entries
of a mapping. If it asks for a record, let the record have a field for every declared property and
no other default than null, and let it hold no null under a required name. Then the schema whose
only member it is casts these entries too, provided that the result, read back, has enough
properties, and that the properties that do not merely convert scalars are cast one level deeper and
pass the second look. What both results hold under declared names that are there is the same, except
that the second does not have what is null in a record.

**Proof sketch.** `Casting.castNode_ofMember` for the detour, `Casting.castNode_of_parts` for the
cast one level deeper, and `Validation.checkNode_object` for the second look. -/
theorem cast_ofMember (context : CastContext) (hlimit : 4 ≤ context.limit) {s : Schema}
    (hs : s.IsObjectSchema)
    (htarget : ∀ t, s.targetType.resolve? context.types = some t → t.Holds s) {es : Entries}
    (hes : es.KeysDistinct) {r : Value}
    (h : (cast context (.schema s) (.mapping es)).outcome = .ok (.ok r))
    (hheld : s.targetType = .absent ∨
      ∀ p ∈ s.declared, .str p.1 ∈ s.required → r.held? p.1 ≠ some .null) :
    ((∃ r', (cast context (.schema (.ofMember (.schema s))) (.mapping es)).outcome = .ok (.ok r')) ↔
      Validation.below r.entries.length s.minProperties = .ok false ∧
        (∀ c u, s.Describes (.mapping es) c u → context.registry.IsScalar c ∨
          ∃ w, (cast { context with limit := context.limit - 2 } c u).outcome = .ok (.ok w)) ∧
        ∀ c u, s.Describes (.mapping r.entries) c u → context.registry.IsScalar c ∨
          validate context.registry c u (context.limit - 3) = .ok []) ∧
    ∀ r', (cast context (.schema (.ofMember (.schema s))) (.mapping es)).outcome = .ok (.ok r') →
      ∀ p ∈ s.declared, es.has (.str p.1) = true → ∃ w, r.held? p.1 = some w ∧
        (r'.held? p.1 = some w ∨
          s.targetType ≠ .absent ∧ w = .null ∧ r'.held? p.1 = none) := by
  obtain ⟨depth, hdepth⟩ : ∃ depth, context.limit.toNat = depth + 4 :=
    ⟨context.limit.toNat - 4, by omega⟩
  have hless : (context.limit - 2).toNat = depth + 2 := by omega
  have hleast : (context.limit - 3).toNat = depth + 1 := by omega
  have hcast := cast_outcome_ok.1 h
  rw [hdepth] at hcast
  obtain ⟨result, hresult, hmaterial⟩ := (Casting.castSchema_object hs).1 hcast
  obtain ⟨hobject, hkept, hread⟩ := Casting.materialize_held htarget
    (Casting.castObject_distinct hs.names hes hresult) hmaterial
  have hrequired : ∀ n ∈ s.required, r.entries.has n = true := by
    intro n hn
    obtain ⟨p, hp, rfl⟩ := Keywords.declares_iff.1 (hs.required n hn)
    have hhas := Casting.castObject_requires hresult _ hn
    obtain ⟨w, hw⟩ := Casting.castObject_has hs.names hresult hp hhas
    obtain ⟨hholds, hget | ⟨hrecord, rfl, -⟩⟩ := hread p hp w hw
    · rw [Entries.has, hget]
      rfl
    · exact absurd hholds (hheld.resolve_left hrecord p hp hn)
  have hdetour := fun r' =>
    Casting.castNode_ofMember hes hcast hobject hkept.distinct r' (depth + 2)
  have hdeeper : ∀ c u, (∃ w, (cast { context with limit := context.limit - 2 } c u).outcome =
      .ok (.ok w)) ↔ ∃ w, (Casting.castNode context (depth + 2) c u [] []).outcome = .ok w :=
    fun c u => exists_congr fun w => cast_outcome_ok_within hless
  have hlook : ∀ c u, validate context.registry c u (context.limit - 3) = .ok [] ↔
      Validation.checkNode context.registry context.limit (depth + 1) c u [] = .ok [] :=
    fun c u => validate_eq_ok_within hleast
  simp only [hdeeper, hlook]
  simp only [cast_outcome_ok, hdepth, hdetour]
  refine ⟨?_, ?_⟩
  · rw [Casting.checkNode_of_nonscalars hs hresult hkept hrequired,
      Casting.castNode_of_nonscalars hs hcast]
    constructor
    · rintro ⟨r', hparts, ⟨hfew, hlooks⟩, -⟩
      exact ⟨hfew, hparts, hlooks⟩
    · rintro ⟨hfew, hparts, hlooks⟩
      exact ⟨_, hparts, ⟨hfew, hlooks⟩, rfl⟩
  · rintro r' ⟨-, -, rfl⟩ p hp hhas
    obtain ⟨w, hw⟩ := Casting.castObject_has hs.names hresult hp hhas
    exact ⟨w, hread p hp w hw⟩

/-- A patron, who may have a nickname and has an age. -/
def patron : Schema where
  type := some .object
  properties := some [("nick", .schema { type := some .string, nullable := .bool true }),
    ("age", .ref "Age")]
  required := [.str "age"]
  targetType := .tagged (.str "Patron")

/-- Ages are whole numbers. -/
def ages : Registry := ⟨[("Age", .schema { type := some .integer })]⟩

/-- Records of patrons. -/
def patrons : TypeMap :=
  .named [("Patron", .declared "Patron" [⟨"nick", some .null, true⟩, ⟨"age", none, true⟩])]

/-- A patron without a nickname, as written down. -/
def writtenPatron : Entries := [(.str "nick", .null), (.str "age", .str "36")]

/-- A patron is a schema for objects. -/
lemma patron_isObjectSchema : patron.IsObjectSchema where
  type := rfl
  enum := rfl
  format := rfl
  plain := rfl
  notSchema := rfl
  discriminator := rfl
  names := by decide
  required := by simp [patron, Keywords.declares, Keywords.declared, Value.equal]

/-- Records of patrons hold what is declared. -/
lemma patrons_hold (t : RecordType) (h : patron.targetType.resolve? patrons = some t) :
    t.Holds patron := by
  obtain rfl := Option.some.inj h
  refine .declared (by decide) ?_ ?_
  · simp [patron, Keywords.declared]
  · simp

/-- A patron is cast to a record, and to a mapping as a single member; both hold the age. -/
theorem patron_detour :
    4 ≤ (4 : Int) ∧ patron.IsObjectSchema ∧
      (∀ t, patron.targetType.resolve? patrons = some t → t.Holds patron) ∧
      writtenPatron.KeysDistinct ∧
      (cast ⟨ages, patrons, 4⟩ (.schema patron) (.mapping writtenPatron)).outcome =
        .ok (.ok (.record "Patron" [("nick", .null), ("age", .int 36)])) ∧
      (∀ p ∈ patron.declared, .str p.1 ∈ patron.required →
        (Value.record "Patron" [("nick", .null), ("age", .int 36)]).held? p.1 ≠ some .null) ∧
      ∃ r', (cast ⟨ages, patrons, 4⟩ (.schema (.ofMember (.schema patron)))
        (.mapping writtenPatron)).outcome = .ok (.ok r') ∧ r'.held? "age" = some (.int 36) := by
  have hcast : (cast ⟨ages, patrons, 4⟩ (.schema patron) (.mapping writtenPatron)).outcome =
      .ok (.ok (.record "Patron" [("nick", .null), ("age", .int 36)])) := by
    cbv
  have hdistinct : writtenPatron.KeysDistinct := by
    refine ⟨?_, ?_⟩
    · simp [writtenPatron, KeysApart, sameKey_eq_false]
    · simp [writtenPatron, Value.sameKey_str]
  have hheld : ∀ p ∈ patron.declared, .str p.1 ∈ patron.required →
      (Value.record "Patron" [("nick", .null), ("age", .int 36)]).held? p.1 ≠ some .null := by
    simp [patron, Keywords.declared, Value.held?, List.lookup]
  have hscalar : ∀ c u es, patron.Describes (.mapping es) c u → ages.IsScalar c := by
    intro c u es hdescribes
    cases hdescribes with
    | property hc _ =>
      have hnode := mem_of_lookup hc
      simp only [patron, Keywords.declared, Option.getD_some, List.mem_cons, Prod.mk.injEq,
        List.not_mem_nil, or_false] at hnode
      rcases hnode with ⟨-, rfl⟩ | ⟨-, rfl⟩
      · exact ⟨_, none, rfl, rfl, rfl, rfl, rfl⟩
      · exact ⟨_, some "Age", rfl, rfl, rfl, rfl, rfl⟩
    | additional hc _ => cases hc
    | item hc _ _ => cases hc
  obtain ⟨hdetour, hsame⟩ := cast_ofMember ⟨ages, patrons, 4⟩ (by decide) patron_isObjectSchema
    patrons_hold hdistinct hcast (.inr hheld)
  obtain ⟨r', hr'⟩ := hdetour.2 ⟨rfl, fun c u h => .inl (hscalar c u _ h),
    fun c u h => .inl (hscalar c u _ h)⟩
  obtain ⟨w, hw, hw' | ⟨-, rfl, -⟩⟩ := hsame r' hr' ("age", .ref "Age") (by simp [patron,
    Keywords.declared]) rfl
  · obtain rfl := Option.some.inj hw
    exact ⟨by decide, patron_isObjectSchema, patrons_hold, hdistinct, hcast, hheld, r', hr', hw'⟩
  · cases hw

/-- What may have a nickname, and is to have some property. -/
def nicknamed : Schema where
  type := some .object
  properties := some [("nick", .schema { type := some .string, nullable := .bool true })]
  targetType := .tagged (.str "Nicknamed")
  minProperties := .int 1

/-- Records with a nickname. -/
def nicknames : TypeMap :=
  .named [("Nicknamed", .declared "Nicknamed" [⟨"nick", some .null, true⟩])]

/-- Sizes, which are whole numbers or numbers of any kind. -/
def sizes : Schema where
  type := some .object
  additional := .schema (.schema { oneOf := some [.schema { type := some .integer },
    .schema { type := some .number }] })

/-- A row of whole numbers. -/
def wholeRow : Schema where
  type := some .array
  items := some (.schema { type := some .integer })

/-- Tables of whole numbers. -/
def wholeTables : Schema where
  type := some .object
  additional := .schema (.schema { type := some .array, items := some (.schema wholeRow) })

/-- A single member is not neutral: a null of a record is lost, so that there may be too few
properties; of alternatives several may conform to the result; and parts may be too deep. -/
theorem member_not_neutral :
    (cast ⟨⟨[]⟩, nicknames, 4⟩ (.schema { nicknamed with minProperties := .null })
      (.mapping [(.str "nick", .null)])).outcome =
        .ok (.ok (.record "Nicknamed" [("nick", .null)])) ∧
    (cast ⟨⟨[]⟩, nicknames, 4⟩
      (.schema (.ofMember (.schema { nicknamed with minProperties := .null })))
      (.mapping [(.str "nick", .null)])).outcome = .ok (.ok (.mapping [])) ∧
    ((cast ⟨⟨[]⟩, nicknames, 4⟩ (.schema nicknamed) (.mapping [(.str "nick", .null)])).outcome.map
      fun r => r.issues.map Issue.kind).toOption = some [] ∧
    ((cast ⟨⟨[]⟩, nicknames, 4⟩ (.schema (.ofMember (.schema nicknamed)))
      (.mapping [(.str "nick", .null)])).outcome.map fun r => r.issues.map Issue.kind).toOption =
        some [.constraintViolation] ∧
    (cast ⟨⟨[]⟩, .generic, 9⟩ (.schema sizes) (.mapping [(.str "a", .str "3")])).outcome =
      .ok (.ok (.mapping [(.str "a", .int 3)])) ∧
    ((cast ⟨⟨[]⟩, .generic, 9⟩ (.schema (.ofMember (.schema sizes)))
      (.mapping [(.str "a", .str "3")])).outcome.map fun r => r.issues.map Issue.kind).toOption =
        some [.ambiguousMatch] ∧
    (cast ⟨⟨[]⟩, .generic, 4⟩ (.schema wholeTables)
      (.mapping [(.str "a", .list [.list [.str "3"]])])).outcome =
        .ok (.ok (.mapping [(.str "a", .list [.list [.int 3]])])) ∧
    (cast ⟨⟨[]⟩, .generic, 4⟩ (.schema (.ofMember (.schema wholeTables)))
      (.mapping [(.str "a", .list [.list [.str "3"]])])).outcome =
        .error (.tooDeep 4 [.str "a", .int 0, .int 0]) := by
  refine ⟨?_, ?_, ?_, ?_, ?_, ?_, ?_, ?_⟩
  · cbv
  · cbv
  · decide +kernel
  · decide +kernel
  · cbv
  · decide +kernel
  · cbv
  · cbv

end DataSchema
