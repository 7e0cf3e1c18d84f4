import Mathlib
import DataSchema.Proofs.IssueKinds
import DataSchema.Proofs.Soundness

set_option autoImplicit false

/-!
# Soundness of casts to records

A cast to a record type keeps those of the entries that the type has a field for, and fills the
other fields with their defaults; a check reads the fields back as entries, leaving out those that
are null unless they are required. If defaults are null and declared properties have fields, then
the entries that are read back are some of those that the record was built of, the required ones
among them. So a record passes what the mapping would have passed, and casts are sound for schemas
that ask for records at any depth.

## Main definitions

* `DataSchema.RecordType.Holds` — record types that lose nothing that a schema declares.
* `DataSchema.Keywords.AsksForRecords` — schemas whose casts to records lose nothing that is
  checked.

## Main results

* `DataSchema.RecordType.build_declared` — the fields of a record, one by one.
* `DataSchema.Validation.isPart_objectView` — what is read back of a record.
* `DataSchema.Soundness.checkObject_part` — parts of a result pass.
* `DataSchema.validate_of_cast_records` — casts of whole values.
-/

namespace DataSchema

/-! ## Building records -/

namespace Entries

/-- To look up a name it is enough to keep the entries that have it. -/
lemma get?_filter {es : Entries} {name : String} {p : Value × Value → Bool}
    (h : ∀ e ∈ es, e.1 = .str name → p e = true) :
    Entries.get? (es.filter p) (.str name) = es.get? (.str name) := by
  induction es with
  | nil => rfl
  | cons e es ih =>
    have hrest := ih fun e' he' => h e' (List.mem_cons_of_mem e he')
    rw [List.filter_cons, get?_cons]
    by_cases hkey : e.1.sameKey (.str name) = true
    · rw [if_pos (h e List.mem_cons_self (Value.sameKey_str.1 hkey)), get?_cons]
      simp only [hkey, if_true]
    · rw [if_neg hkey]
      split
      · rw [get?_cons, if_neg hkey, hrest]
      · exact hrest

end Entries

namespace RecordType

/-- The value that a field is given by entries, or else its default; null if there is neither. -/
def fieldValue (es : Entries) (f : FieldSpec) : Value :=
  ((if f.settable then es.get? (.str f.name) else none).or f.default).getD .null

/-- A name has the value among the texts that it has among the entries. -/
lemma lookup_textEntries {es : Entries} {given : List (String × Value)}
    (h : textEntries? es = some given) (name : String) :
    given.lookup name = es.get? (.str name) := by
  induction es generalizing given with
  | nil =>
    obtain rfl := Option.some.inj h
    rfl
  | cons e es ih =>
    obtain ⟨k, v⟩ := e
    unfold textEntries? at h
    split at h
    next => contradiction
    next n w _ heq =>
      obtain ⟨⟨rfl, rfl⟩, rfl⟩ : (k = .str n ∧ v = w) ∧ es = _ := by simpa using heq
      obtain ⟨rest, hrest, rfl⟩ := Option.map_eq_some_iff.1 h
      rw [Entries.get?_cons, ← ih hrest, List.lookup_cons]
      by_cases hname : name = n
      · simp [hname, Value.sameKey_str]
      · have hne : ¬ (Value.str n).sameKey (.str name) = true := by
          rw [Value.sameKey_str, Value.str.injEq]
          exact fun heq => hname heq.symm
        rw [if_neg hne, beq_eq_false_iff_ne.2 hname]
    next => cases h

/-- **Fields of a record**: a record of a declared type has its fields in declared order, each with
the value that it is given by the entries, or else its default. -/
lemma build_declared {name : String} {fields : List FieldSpec} {es : Entries} {r : Value}
    (h : (declared name fields).build ((declared name fields).accepted es) = .ok r) :
    r = .record name (fields.map fun f => (f.name, fieldValue es f)) := by
  unfold build at h
  split at h
  next => cases h
  next given hgiven =>
    dsimp only at h
    unfold buildDeclared at h
    split at h
    next => cases h
    next =>
      dsimp only at h
      split at h
      next =>
        rw [← Except.ok.inj h]
        congr 1
        refine List.map_congr_left fun f hf => ?_
        unfold fieldValue
        cases hset : f.settable with
        | false => rfl
        | true =>
          -- a field that can be set is one that the type takes, so its entry has been kept
          have htakes : ∀ e ∈ es, e.1 = .str f.name → takes fields e.1 = true := by
            intro e _ hkey
            rw [hkey]
            exact List.any_eq_true.2 ⟨f, hf, by rw [hset]; simp [Value.equal]⟩
          have hvalue : given.lookup f.name = es.get? (.str f.name) := by
            rw [lookup_textEntries hgiven, accepted, Entries.get?_filter htakes]
          rw [if_pos rfl, if_pos rfl, hvalue]
      next => cases h

/-- A record type holds what a schema declares: it is a declared type, with a field that can be set
for every declared property, and no field has another default than null. -/
inductive Holds (s : Schema) : RecordType → Prop
  | declared {name : String} {fields : List FieldSpec} :
    (fields.map FieldSpec.name).Nodup →
    (∀ p ∈ s.declared, ∃ f ∈ fields, f.name = p.1 ∧ f.settable = true) →
    (∀ f ∈ fields, ∀ v, f.default = some v → v = .null) →
    Holds s (.declared name fields)

end RecordType

/-! ## Reading records back -/

namespace Validation

/-- Entries that are some of others: texts as keys, none twice, and the values that they have
there. -/
structure IsPart (part es : Entries) : Prop where
  keys : (part.map Prod.fst).Nodup
  values : ∀ e ∈ part, ∃ name, e.1 = .str name ∧ es.get? (.str name) = some e.2

variable {part es : Entries}

/-- A look-up in some of the entries has the result that it has in all. -/
lemma IsPart.get? (h : IsPart part es) {name : String} {v : Value}
    (hv : part.get? (.str name) = some v) : es.get? (.str name) = some v := by
  obtain ⟨name', hname, hvalue⟩ := h.values _ (Entries.mem_of_get? hv)
  obtain rfl := Value.str.inj hname
  exact hvalue

/-- There are no more of some of the entries than there are of all. -/
lemma IsPart.length_le (h : IsPart part es) : part.length ≤ es.length := by
  have hsub : part.map Prod.fst ⊆ es.map Prod.fst := by
    intro k hk
    obtain ⟨e, he, rfl⟩ := List.mem_map.1 hk
    obtain ⟨name, hname, hvalue⟩ := h.values e he
    rw [hname]
    exact List.mem_map_of_mem (Entries.mem_of_get? hvalue)
  simpa using (List.subperm_of_subset h.keys hsub).length_le

/-- What is above a whole number is above the smaller ones. -/
lemma less_int_mono {b : Number} {m n : Nat} (hmn : m ≤ n) (h : b.less (.int n) = false) :
    b.less (.int m) = false := by
  have hscaled : (m : Int) * Binary64.one ≤ n * Binary64.one :=
    Int.mul_le_mul_of_nonneg_right (by omega) (by omega)
  unfold Number.less at *
  cases hb : b.extent? with
  | none => rfl
  | some x =>
    rw [hb] at h
    cases x with
    | bottom => cases h
    | top => rfl
    | «at» a =>
      simp only [Number.extent?, Extent.less, decide_eq_false_iff_not] at h ⊢
      omega

/-- A number of things that is not too great is not too great for fewer. -/
lemma above_mono {m n : Nat} {keyword : Value} (hmn : m ≤ n) (h : above n keyword = .ok false) :
    above m keyword = .ok false := by
  unfold above at *
  split at h
  next hnull => rw [if_pos hnull]
  next hset =>
    rw [if_neg hset]
    obtain ⟨b, hb, hless⟩ := map_eq_ok.1 h
    rw [hb]
    exact congrArg Except.ok (less_int_mono hmn hless)

/-- A field that is read back, for it is not null or its name is required, holds what the entries
have under its name.

**Proof sketch.** A field without an entry holds null, for that is its default. So does one that
cannot be set, and none of these has the name of a declared property, as names are not repeated. -/
lemma get?_of_shown {s : Schema} {fields : List FieldSpec}
    (hnames : (fields.map FieldSpec.name).Nodup)
    (hfields : ∀ p ∈ s.declared, ∃ f ∈ fields, f.name = p.1 ∧ f.settable = true)
    (hdefaults : ∀ f ∈ fields, ∀ v, f.default = some v → v = .null)
    (hrequired : ∀ n ∈ s.required, s.declares n = true ∧ es.has n = true) {f : FieldSpec}
    (hf : f ∈ fields)
    (hshown : (RecordType.fieldValue es f).isNull = false ∨ .str f.name ∈ s.required) :
    es.get? (.str f.name) = some (RecordType.fieldValue es f) := by
  have hnone : f.default.getD .null = .null := by
    cases hd : f.default with
    | none => rfl
    | some v => exact hdefaults f hf v hd
  cases hget : es.get? (.str f.name) with
  | some v =>
    have hset : f.settable = true := by
      rcases hshown with hshown | hshown
      · by_contra hset
        simp [RecordType.fieldValue, Bool.eq_false_of_not_eq_true hset, hnone, Value.isNull]
          at hshown
      · obtain ⟨p, hp, hname⟩ := Keywords.declares_iff.1 (hrequired _ hshown).1
        obtain ⟨g, hg, hgname, hset⟩ := hfields p hp
        obtain rfl := List.inj_on_of_nodup_map hnames hf hg (by rw [hgname, Value.str.inj hname])
        exact hset
    simp [RecordType.fieldValue, hset, hget]
  | none =>
    rcases hshown with hshown | hshown
    · simp [RecordType.fieldValue, hget, hnone, Value.isNull] at hshown
    · have hhas := (hrequired _ hshown).2
      rw [Entries.has, hget] at hhas
      cases hhas

/-- **What is read back of a record** is part of the entries that it was built of, if these have
all that is required, and required names are those of declared properties. -/
lemma isPart_objectView {s : Schema} {t : RecordType} (ht : t.Holds s) {r : Value}
    (hbuild : t.build (t.accepted es) = .ok r)
    (hrequired : ∀ n ∈ s.required, s.declares n = true ∧ es.has n = true) :
    r.isObject = true ∧ ∃ part, r.objectView? s.required = some part ∧ IsPart part es ∧
      ∀ n ∈ s.required, part.has n = true := by
  cases ht with
  | @declared name fields hnames hfields hdefaults =>
    obtain rfl := RecordType.build_declared hbuild
    refine ⟨rfl, _, rfl, ⟨?_, fun e he => ?_⟩, fun n hn => ?_⟩
    · -- no key stands twice, for the fields that are shown are some of all
      have hsub := List.filter_sublist (p := fun f : String × Value =>
        !f.2.isNull || s.required.any (·.equal (.str f.1)))
        (l := fields.map fun f => (f.name, RecordType.fieldValue es f))
      have hfst : (fields.map fun f => (f.name, RecordType.fieldValue es f)).map Prod.fst =
          fields.map FieldSpec.name := by
        rw [List.map_map]
        rfl
      have hnodup := ((hsub.map Prod.fst).nodup (hfst ▸ hnames)).map
        fun _ _ => Value.str.inj
      rw [List.map_map] at hnodup ⊢
      exact hnodup
    · -- a field that is shown has the value of its entry
      obtain ⟨g, hg, rfl⟩ := List.mem_map.1 he
      obtain ⟨hmem, hshown⟩ := List.mem_filter.1 hg
      obtain ⟨f, hf, rfl⟩ := List.mem_map.1 hmem
      refine ⟨f.name, rfl, get?_of_shown hnames hfields hdefaults hrequired hf ?_⟩
      rw [Bool.or_eq_true, Bool.not_eq_true', List.any_eq_true] at hshown
      refine hshown.imp_right ?_
      rintro ⟨n, hn, hequal⟩
      rw [← Value.equal_str.1 hequal]
      exact hn
    · -- a required name is that of a field, which is shown even if it is null
      obtain ⟨p, hp, rfl⟩ := Keywords.declares_iff.1 (hrequired n hn).1
      obtain ⟨f, hf, hname, -⟩ := hfields p hp
      have hshown : s.required.any (·.equal (.str f.name)) = true :=
        List.any_eq_true.2 ⟨_, hn, Value.equal_str.2 (by rw [hname])⟩
      have hmem : (f.name, RecordType.fieldValue es f) ∈
          (fields.map fun f => (f.name, RecordType.fieldValue es f)).filter fun f =>
            !f.2.isNull || s.required.any (·.equal (.str f.1)) :=
        List.mem_filter.2 ⟨List.mem_map_of_mem hf, by rw [hshown, Bool.or_true]⟩
      exact Entries.has_iff.2 ⟨_, List.mem_map_of_mem hmem, Value.str_sameKey.2 (by rw [hname])⟩

end Validation

/-! ## Casts to records -/

namespace Keywords

/-- Casts by the schema ask for all that its check asks for, and so do casts to the record type that
it asks for. -/
structure AsksForRecords (types : TypeMap) (s : Schema) : Prop where
  /-- The schema is not composed. -/
  composed : s.isComposed = false
  /-- There is nothing that must not match. -/
  notSchema : s.notSchema = none
  /-- No other schema is selected. -/
  discriminator : s.discriminator = none
  /-- One of the known types is asked for. -/
  type : ∃ t ∈ TypeName.known, s.type = some t
  /-- Values are listed only where a scalar is asked for. -/
  enum : s.enum.isSome → s.asksForScalar = true
  /-- Required properties are declared. -/
  required : ∀ n ∈ s.required, s.declares n = true
  /-- Properties are declared once. -/
  names : (s.declared.map Prod.fst).Nodup
  /-- Records are built of objects, however few properties these have. -/
  target : s.targetType ≠ .absent → s.type = some .object ∧ s.minProperties.isNull = true
  /-- The record type holds what is declared. -/
  holds : ∀ t, s.targetType.resolve? types = some t → t.Holds s

/-- Without its record type, the schema asks alike in casts and in checks. -/
lemma AsksForRecords.asksAlike {types : TypeMap} {s : Schema} (hs : s.AsksForRecords types) :
    Keywords.AsksAlike { s with targetType := .absent } where
  discriminator := hs.discriminator
  targetType := rfl
  alternatives := fun h => by
    have hcomposed := hs.composed
    rw [isComposed, show s.hasAlternatives = true from h, Bool.or_true] at hcomposed
    cases hcomposed
  type := fun _ name h => by
    obtain ⟨t, hknown, htype⟩ := hs.type
    rw [show s.type = some (.unknown name) from h] at htype
    obtain rfl := Option.some.inj htype
    simp [TypeName.known] at hknown
  enum := fun _ h => .inl (hs.enum h)
  object := fun _ h => by
    obtain ⟨t, -, htype⟩ := hs.type
    rw [show s.type = none from h] at htype
    cases htype
  array := fun _ h => by
    obtain ⟨t, -, htype⟩ := hs.type
    rw [show s.type = none from h] at htype
    cases htype
  required := fun _ n hn => .inl (hs.required n hn)
  names := hs.names

end Keywords

namespace Value

/-- An object is not null. -/
lemma isNull_of_isObject {v : Value} (h : v.isObject = true) : v.isNull = false := by
  cases v with
  | null => cases h
  | _ => rfl

/-- An object has no items. -/
lemma items?_of_isObject {v : Value} (h : v.isObject = true) : v.items? = none := by
  cases v with
  | list _ | tuple _ => cases h
  | _ => rfl

end Value

namespace Soundness

open Validation Casting

variable {P : Fault → Prop} {child : NodeCaster} {check : NodeChecker} {s : Schema}
  {v r : Value} {path : Path} {active : List String}

section

variable {data declared others part : Entries}
  (hdeclared : (castDeclared child data path active s.declared).outcome = .ok declared)
  (hothers : (castExtra child s (undeclared s data) path active).outcome = .ok others)
  (hpart : IsPart part (declared ++ others))

include hpart

/-- What is undeclared in a part is undeclared in the whole. -/
lemma undeclared_part : ∀ e ∈ undeclared s part, e ∈ undeclared s (declared ++ others) := by
  intro e he
  obtain ⟨hmem, hnot⟩ := List.mem_filter.1 he
  obtain ⟨name, hname, hvalue⟩ := hpart.values e hmem
  obtain ⟨k, w⟩ := e
  obtain rfl : k = .str name := hname
  exact List.mem_filter.2 ⟨Entries.mem_of_get? hvalue, hnot⟩

include hdeclared hothers

/-- The undeclared properties of a part of a result pass. -/
lemma checkAdditional_part (hchild : ∀ c ∈ s.partNodes, PartsPass P child check c) :
    Passes P (checkAdditional check s part path) := by
  have hextra : ∀ e ∈ undeclared s part, e ∈ undeclared s (declared ++ others) :=
    undeclared_part hpart
  unfold checkAdditional
  split
  next => exact .nil
  next => exact .nil
  next hforbidden =>
    have hnone : undeclared s part = [] := by
      refine List.eq_nil_iff_forall_not_mem.2 fun e he => ?_
      have hmem := hextra e he
      rw [undeclared_result_eq_nil hforbidden hdeclared hothers] at hmem
      cases hmem
    rw [hnone]
    exact .nil
  next node hnode =>
    exact .gather fun e he => extra_passes hchild hnode hdeclared hothers (hextra e he)

/-- **Parts of a result pass**: a value that is read as some of the entries of a result, all that is
required among them, passes where no number of properties is too small. -/
lemma checkObject_part (hchild : ∀ c ∈ s.partNodes, PartsPass P child check c)
    (hnames : (s.declared.map Prod.fst).Nodup) (hview : r.objectView? s.required = some part)
    (hrequired : ∀ n ∈ s.required, n.isKey = true ∧ part.has n = true)
    (hmin : s.minProperties.isNull = true)
    (hmany : above (declared ++ others).length s.maxProperties = .ok false) :
    Passes P (checkObject check s r path) := by
  have hproperties : Passes P (checkProperties check s part path) := by
    refine .gather fun p hp => ?_
    split
    next w hw => exact property_passes hchild hnames hdeclared hothers hp (hpart.get? hw)
    next => exact .nil
  have hthere : gather s.required (checkRequiredName part path) = .ok [] :=
    gather_required_eq_nil hrequired
  have hadditional := checkAdditional_part hdeclared hothers hpart hchild
  have hcount : checkPropertyCount s part.length path = .ok [] :=
    checkPropertyCount_eq_nil (by rw [below, hmin, if_pos rfl]) (above_mono hpart.length_le hmany)
  unfold checkObject
  rw [hview]
  dsimp only
  rw [hthere, hcount]
  refine hproperties.bind fun declared hd => Passes.nil.bind fun required hr =>
    hadditional.bind fun additional ha => Passes.nil.bind fun count hc => .ok ?_
  exact ((hd.append hr).append ha).append hc

end

/-- **A record passes**, if it is built of what the own shape of its schema has made of an object. -/
lemma ownPasses_record {types : TypeMap} (hs : s.AsksForRecords types)
    (hformat : s.format.isKey = false → P .notKey)
    (hchild : ∀ c ∈ s.partNodes, PartsPass P child check c) {t : RecordType}
    (ht : s.targetType.resolve? types = some t) {es : Entries}
    (hown : (castOwn child s v path active).outcome = .ok (.mapping es))
    (hbuild : t.build (t.accepted es) = .ok r) : OwnPasses P check s r path := by
  have hthere : s.targetType ≠ .absent := by
    intro habsent
    rw [habsent] at ht
    cases ht
  obtain ⟨htype, hmin⟩ := hs.target hthere
  have hobject : castsObject s v = true := by rw [castsObject, htype]
  rw [castOwn, if_pos hobject] at hown
  obtain ⟨data, declared, others, -, hdata, -, hdeclared, hothers, -, hmany, heq⟩ :=
    castObject_outcome_ok.1 hown
  obtain rfl := Value.mapping.inj heq
  have hrequired : ∀ n ∈ s.required, s.declares n = true ∧
      Entries.has (declared ++ others) n = true := fun n hn =>
    ⟨hs.required n hn,
      has_of_required (.inl (hs.required n hn)) (hdata n hn).2 hdeclared hothers⟩
  obtain ⟨hrecord, part, hview, hpart, hhas⟩ := isPart_objectView (hs.holds t ht) hbuild hrequired
  have hunlisted : s.enum = none := by
    cases henum : s.enum with
    | none => rfl
    | some members =>
      have hscalar := hs.enum (by rw [henum]; rfl)
      rw [Keywords.asksForScalar, htype] at hscalar
      cases hscalar
  exact {
    notNull := by rw [Value.isNull_of_isObject hrecord, Bool.false_and]
    type := checkType_eq_nil_of_hasType (by simpa only [hasType, htype] using hrecord)
    enum := checkEnum_eq_nil_of_none hunlisted
    scalar := checkScalar_container hformat (.inl hrecord)
    object := checkObject_part hdeclared hothers hpart hchild hs.names hview
      (fun n hn => ⟨(hdata n hn).1, hhas n hn⟩) hmin hmany
    array := by
      rw [checkArray, Value.items?_of_isObject hrecord]
      exact .nil }

/-- **A schema casts to records that pass**, if its own shape casts to what passes. -/
lemma castComposed_passes_records {context : CastContext} (hs : s.AsksForRecords context.types)
    (hformat : s.format.isKey = false → P .notKey)
    (hchild : ∀ c ∈ s.partNodes, PartsPass P child check c)
    (h : (castComposed context child check s v path active).outcome = .ok r) :
    Passes P (checkSchema check s r path) := by
  obtain ⟨own, hown, -, hmaterial⟩ := (castComposed_uncomposed hs.composed).1 h
  obtain ⟨hmembers, hone, hany⟩ := Keywords.isComposed_eq_false.1 hs.composed
  have hcomposition : Passes P (checkComposition check s r path) := by
    unfold checkComposition checkAnyOf checkOneOf checkNot
    rw [hmembers, hone, hany, hs.notSchema]
    exact .nil
  refine checkSchema_passes fun _ => ⟨?_, hcomposition⟩
  rcases materialize_cases hmaterial with rfl | ⟨t, es, htarget, rfl, hbuild⟩
  · -- no record is built, and the schema without its record type casts and checks alike
    have hpass : OwnPasses P check { s with targetType := .absent } r path :=
      castOwn_passes hs.asksAlike hs.composed hformat hchild hown
    exact ⟨hpass.notNull, hpass.type, hpass.enum, hpass.scalar, hpass.object, hpass.array⟩
  · exact ownPasses_record hs hformat hchild htarget hown hbuild

/-- Why the check of a result with records may stop: a format of an object or an array that is no
name and cannot be looked up either. -/
inductive Nameless (registry : Registry) (node : Node) : Fault → Prop
  | format {s : Schema} : registry.Reaches Keywords.partNodes node s → s.format.isKey = false →
    Nameless registry node .notKey

/-- **Casts to records pass checks at every depth.** -/
theorem castNode_passes_records (context : CastContext) (depth : Nat) {node : Node}
    (hs : ∀ s, context.registry.Reaches Keywords.partNodes node s →
      s.AsksForRecords context.types) :
    PartsPass (Nameless context.registry node) (castNode context depth)
      (checkNode context.registry context.limit depth) node := by
  intro v r path active h
  refine castNode_induction
    (H := fun s => s.AsksForRecords context.types ∧
      context.registry.Reaches Keywords.partNodes node s)
    (M := fun depth c _ r path => Passes (Nameless context.registry node)
      (checkNode context.registry context.limit depth c r path))
    ?_ ?_ ?_ (fun s hreach => ⟨hs s hreach, hreach⟩) h
  · intro depth name s _ r path hget hpass
    rwa [checkNode_named hget]
  · intro depth name other _ r path hget hpass
    rwa [checkNode_link hget]
  · rintro depth s v r path active ⟨hasks, hreach⟩ hparts h
    rcases (castSchema_outcome_ok hasks.discriminator).1 h with ⟨hnull, rfl⟩ | ⟨-, -, hcast⟩
    · refine checkSchema_passes fun hnot => ?_
      rw [(Bool.and_eq_true_iff.1 hnull).2] at hnot
      cases hnot
    · exact castComposed_passes_records hasks (fun hkey => .format hreach hkey) hparts hcast

end Soundness

open Soundness

/-- **Casts to records are sound**: if no reachable schema asks for more than casts to its record
type keep, then no issue is found in what the cast made, records in records included. Only a format
that is no name and cannot be looked up either stops the check of an object. -/
theorem validate_of_cast_records {context : CastContext} {node : Node}
    (hs : ∀ s, context.registry.Reaches Keywords.partNodes node s →
      s.AsksForRecords context.types) {v r : Value}
    (h : (cast context node v).outcome = .ok (.ok r)) :
    validate context.registry node r context.limit = .ok [] ∨
      validate context.registry node r context.limit = .error .notKey ∧
        ∃ s, context.registry.Reaches Keywords.partNodes node s ∧ s.format.isKey = false := by
  have hpass : Passes (Nameless context.registry node)
      (validate context.registry node r context.limit) :=
    castNode_passes_records context context.limit.toNat hs v r [] [] (cast_outcome_ok.1 h)
  have hchoice : Validation.Unambiguous (validate context.registry node r context.limit) := by
    refine Validation.checkNode_unambiguous _ _ _ (fun s hreach => ?_) r []
    have hparts : context.registry.Reaches Keywords.partNodes node s :=
      hreach.of_steps fun t ht c hc => by
        rwa [Keywords.reportingNodes, (Keywords.isComposed_eq_false.1 (hs t ht).composed).1,
          List.append_nil] at hc
    exact (Keywords.isComposed_eq_false.1 (hs s hparts).composed).2.1
  cases hresult : validate context.registry node r context.limit with
  | error f =>
    rw [hresult] at hpass
    cases hpass with
    | stops hf =>
      cases hf with
      | format hreach hkey => exact .inr ⟨rfl, _, hreach, hkey⟩
  | ok is =>
    rw [hresult] at hpass
    cases hpass with
    | ok his =>
      have hnone : is = [] :=
        List.eq_nil_iff_forall_not_mem.2 fun i hi => hchoice is hresult i hi (his i hi)
      exact .inl (by rw [hnone])

/-- A line of an order, with a day. -/
def orderLine : Schema where
  type := some .object
  properties := some [("day", .schema { type := some .string, format := .str "date" })]
  targetType := .tagged (.str "Line")

/-- An order, with a note that may be null but must be there, and lines. -/
def order : Schema where
  type := some .object
  properties := some [("id", .schema { type := some .integer }),
    ("note", .schema { type := some .string, nullable := .bool true }),
    ("lines", .schema { type := some .array, items := some (.ref "Line") })]
  required := [.str "id", .str "note"]
  targetType := .tagged (.str "Order")

/-- The schemas of orders and their lines. -/
def orders : Registry := ⟨[("Order", .schema order), ("Line", .schema orderLine)]⟩

/-- Record types for lines and for orders, with a field that orders do not declare. -/
def orderTypes : TypeMap :=
  .named [
    ("Order", .declared "Order" [⟨"id", none, true⟩, ⟨"note", none, true⟩,
      ⟨"lines", some .null, true⟩, ⟨"paid", some .null, true⟩]),
    ("Line", .declared "Line" [⟨"day", some .null, true⟩])]

/-- A schema of a known type, with a format and perhaps null at most, leads to itself alone. -/
lemma leaf_asksForRecords {t : TypeName} {f n : Value} (ht : t ∈ TypeName.known)
    (hf : f.isKey = true) (s : Schema)
    (h : orders.Reaches Keywords.partNodes
      (.schema { type := some t, format := f, nullable := n }) s) :
    s.AsksForRecords orderTypes ∧ s.format.isKey = true := by
  cases h with
  | here =>
    refine ⟨?_, hf⟩
    constructor <;> simp [Keywords.isComposed, Keywords.hasAlternatives, Keywords.oneOfList,
      Keywords.anyOfList, Keywords.allOfList, Keywords.declared, TargetType.resolve?, ht]
  | child hc _ => cases hc

/-- A line asks for records that hold its day. -/
lemma orderLine_asksForRecords (s : Schema)
    (h : orders.Reaches Keywords.partNodes (.schema orderLine) s) :
    s.AsksForRecords orderTypes ∧ s.format.isKey = true := by
  cases h with
  | here =>
    have hholds : ∀ t, orderLine.targetType.resolve? orderTypes = some t →
        t.Holds orderLine := by
      intro t ht
      obtain rfl := Option.some.inj ht
      exact .declared (by decide) (by simp [orderLine, Keywords.declared]) (by simp)
    exact ⟨⟨rfl, rfl, rfl, ⟨_, by decide, rfl⟩, by simp [orderLine], by simp [orderLine],
      by decide, fun _ => ⟨rfl, rfl⟩, hholds⟩, rfl⟩
  | child hc h =>
    rw [List.mem_singleton.1 hc] at h
    exact leaf_asksForRecords (by decide) (by decide) s h

/-- The lines of an order are an array, which leads to lines. -/
lemma orderLines_asksForRecords (s : Schema)
    (h : orders.Reaches Keywords.partNodes
      (.schema { type := some .array, items := some (.ref "Line") }) s) :
    s.AsksForRecords orderTypes ∧ s.format.isKey = true := by
  cases h with
  | here =>
    refine ⟨?_, rfl⟩
    constructor <;> simp [Keywords.isComposed, Keywords.hasAlternatives, Keywords.oneOfList,
      Keywords.anyOfList, Keywords.allOfList, Keywords.declared, TargetType.resolve?,
      TypeName.known]
  | child hc h =>
    rw [List.mem_singleton.1 hc] at h
    cases h with
    | ref hget h =>
      obtain rfl := Option.some.inj hget
      exact orderLine_asksForRecords s h

/-- Orders and their lines ask for records that hold what they declare, and for no odd format. -/
lemma order_asksForRecords (s : Schema)
    (h : orders.Reaches Keywords.partNodes (.ref "Order") s) :
    s.AsksForRecords orderTypes ∧ s.format.isKey = true := by
  cases h with
  | ref hget h =>
    obtain rfl := Option.some.inj hget
    cases h with
    | here =>
      have hholds : ∀ t, order.targetType.resolve? orderTypes = some t → t.Holds order := by
        intro t ht
        obtain rfl := Option.some.inj ht
        exact .declared (by decide) (by simp [order, Keywords.declared]) (by simp)
      exact ⟨⟨rfl, rfl, rfl, ⟨_, by decide, rfl⟩, by simp [order],
        by simp [order, Keywords.declares, Keywords.declared, Value.equal],
        by decide, fun _ => ⟨rfl, rfl⟩, hholds⟩, rfl⟩
    | child hc h =>
      have hparts : order.partNodes = [.schema { type := some .integer },
          .schema { type := some .string, nullable := .bool true },
          .schema { type := some .array, items := some (.ref "Line") }] := rfl
      rw [hparts] at hc
      simp only [List.mem_cons, List.not_mem_nil, or_false] at hc
      rcases hc with rfl | rfl | rfl
      · exact leaf_asksForRecords (by decide) (by decide) s h
      · exact leaf_asksForRecords (by decide) (by decide) s h
      · exact orderLines_asksForRecords s h

/-- The last of February in a leap year. -/
def leapDay : Date := ⟨2024, 2, 29, by decide⟩

/-- An order with a null note and a line is cast to records in which the fields of undeclared and
absent properties are null, and no issue is found in them. -/
theorem order_records_pass :
    (cast ⟨orders, orderTypes, 9⟩ (.ref "Order") (.mapping [(.str "note", .null),
        (.str "lines", .list [.mapping [(.str "day", .str "2024-02-29"), (.str "no", .int 1)],
          .mapping []]), (.str "id", .str "7"), (.str "more", .bool true)])).outcome =
      .ok (.ok (.record "Order" [("id", .int 7), ("note", .null),
        ("lines", .list [.record "Line" [("day", .date leapDay)],
          .record "Line" [("day", .null)]]), ("paid", .null)])) ∧
    validate orders (.ref "Order") (.record "Order" [("id", .int 7), ("note", .null),
        ("lines", .list [.record "Line" [("day", .date leapDay)],
          .record "Line" [("day", .null)]]), ("paid", .null)]) 9 = .ok [] := by
  have hcast : (cast ⟨orders, orderTypes, 9⟩ (.ref "Order") (.mapping [(.str "note", .null),
        (.str "lines", .list [.mapping [(.str "day", .str "2024-02-29"), (.str "no", .int 1)],
          .mapping []]), (.str "id", .str "7"), (.str "more", .bool true)])).outcome =
      .ok (.ok (.record "Order" [("id", .int 7), ("note", .null),
        ("lines", .list [.record "Line" [("day", .date leapDay)],
          .record "Line" [("day", .null)]]), ("paid", .null)])) := by cbv
  refine ⟨hcast, ?_⟩
  rcases validate_of_cast_records (fun s h => (order_asksForRecords s h).1) hcast with
    hnothing | ⟨-, s, hreach, hkey⟩
  · exact hnothing
  · rw [(order_asksForRecords s hreach).2] at hkey
    cases hkey

end DataSchema
