import Mathlib
import DataSchema.Proofs.Settled
import DataSchema.Proofs.Soundness

set_option autoImplicit false

/-!
# Typed parts of results

Every part of a value that is cast is governed by a schema: by the one that is reached on the way
down from the node along references, properties and items. Where that schema asks for a whole
number, a truth value or a date, the part of the result is one, and not a text or a double that
merely reads as one; members and alternatives of a composition do not convert it any further. A
schema that asks for no type and declares no properties passes over the values that its node for
undeclared properties governs, so that they stay as they were.

## Main definitions

* `DataSchema.Governs` — the schema that governs a part of a value.
* `DataSchema.Keywords.Typed` — values of the kind that a schema converts to.
* `DataSchema.Keywords.Overlooks` — schemas that do not cast the parts that they govern.

## Main results

* `DataSchema.Casting.castComposed_typed` — results of composition.
* `DataSchema.typed_of_cast` — all parts of the result of a cast.
-/

namespace DataSchema

/-- A node below a schema describes a part of a value: that of a declared property its value, that
for undeclared properties the values of those, and that for items every item. -/
inductive Keywords.Describes (s : Schema) : Value → Node → Value → Prop
  | property {es : Entries} {name : String} {node : Node} {v : Value} :
    s.declared.lookup name = some node → Entries.get? es (.str name) = some v →
    Describes s (.mapping es) node v
  | additional {es : Entries} {e : Value × Value} {node : Node} :
    s.additional = .schema node → e ∈ Validation.undeclared s es →
    Describes s (.mapping es) node e.2
  | item {v item : Value} {items : List Value} {node : Node} :
    s.items = some node → v.items? = some items → item ∈ items → Describes s v node item

/-- A schema governs a part of a value that a node describes: the value itself, or a part of what a
node below the schema describes. -/
inductive Governs (registry : Registry) : Node → Value → Schema → Value → Prop
  /-- A schema governs its value. -/
  | here (s : Schema) (v : Value) : Governs registry (.schema s) v s v
  /-- A name stands for its node. -/
  | ref {name : String} {node : Node} {s : Schema} {v w : Value} :
    registry.get? name = some node → Governs registry node v s w →
    Governs registry (.ref name) v s w
  /-- Parts of a part are parts of the value. -/
  | part {s t : Schema} {v u w : Value} {node : Node} :
    s.Describes v node u → Governs registry node u t w → Governs registry (.schema s) v t w

/-- What a node below a schema describes is a part of the value. -/
lemma Keywords.Describes.mem_partNodes {s : Schema} {v u : Value} {node : Node}
    (h : s.Describes v node u) : node ∈ s.partNodes := by
  cases h with
  | property hnode _ => exact mem_partNodes_declared (mem_of_lookup hnode)
  | additional hnode _ => exact mem_partNodes_additional hnode
  | item hnode _ _ => exact mem_partNodes_items hnode

/-- A schema that governs a part is one that the node leads to. -/
lemma Governs.reaches {registry : Registry} {node : Node} {s : Schema} {v w : Value}
    (h : Governs registry node v s w) : registry.Reaches Keywords.partNodes node s := by
  induction h with
  | here s v => exact .here s
  | ref hget _ ih => exact .ref hget ih
  | part hdescribes _ ih => exact .child hdescribes.mem_partNodes ih

namespace Keywords

/-- A value is of the kind that a schema converts to: a whole number, a truth value, a date, or a
date with a time; a schema that asks for none of them has all values. -/
def Typed (s : Schema) (v : Value) : Prop :=
  match s.type with
  | some .integer => ∃ n, v = .int n
  | some .boolean => ∃ b, v = .bool b
  | some .string => (s.format = .str "date" → ∃ d, v = .date d) ∧
    (s.format = .str "date-time" → ∃ t, v = .dateTime t)
  | _ => True

/-- A schema does not cast parts of a value that it has nodes for: it asks for no type that is
known, and declares no properties beside its node for undeclared ones. -/
inductive Overlooks (s : Schema) : Prop
  | untyped {node : Node} : s.type = none → s.properties = none → s.additional = .schema node →
    Overlooks s
  | unknown {name : String} : s.type = some (.unknown name) → Overlooks s

end Keywords

/-- A value that conversions end at: a whole number, a truth value, or a date. -/
def Value.isConverted : Value → Bool
  | int _ | bool _ | date _ | dateTime _ => true
  | _ => false

/-- What conversions end at is settled. -/
lemma Value.isSettled_of_isConverted {v : Value} (hv : v.isConverted = true) :
    v.isSettled = true := by
  cases v <;> first | rfl | cases hv

namespace Casting

open Validation

variable {context : CastContext} {child : NodeCaster} {check : NodeChecker} {s : Schema}
  {v r own : Value} {path : Path} {active : List String}

/-! ## Results of conversions -/

/-- A date as the format asks for is of the kind that the schema asks for, where texts become
dates. -/
lemma typed_of_isTemporal (hdates : asksForDates s = true)
    (h : isTemporal s.format r = true) : s.Typed r := by
  unfold Keywords.Typed
  rcases type_of_asksForDates hdates with htype | htype <;> rw [htype]
  · trivial
  · rcases isTemporal_cases h with ⟨hformat, t, rfl⟩ | ⟨hformat, d, rfl⟩
    · exact ⟨fun hother => by simp [hformat] at hother, fun _ => ⟨t, rfl⟩⟩
    · exact ⟨fun _ => ⟨d, rfl⟩, fun hother => by simp [hformat] at hother⟩

/-- **What a conversion makes** is of the kind that the schema asks for. -/
lemma castScalar_typed (h : (castScalar s v path).outcome = .ok r) : s.Typed r := by
  cases castScalar_outcome_ok.1 h with
  | temporal _ hdates htemporal => exact typed_of_isTemporal hdates htemporal
  | timestamp hdates hformat _ => exact typed_of_isTemporal hdates (by rw [hformat]; rfl)
  | day hdates hformat _ => exact typed_of_isTemporal hdates (by rw [hformat]; rfl)
  | typed hgoes hr =>
    unfold Keywords.Typed
    cases hr with
    | unasked _ hasks =>
      unfold Keywords.asksForScalar at hasks
      split <;> simp_all
    | text text htype =>
      -- the text would have been read as a date if the schema asked for one
      have hdates : asksForDates s = false := hgoes.resolve_right fun hnot => hnot.2 text rfl
      rw [asksForDates, htype] at hdates
      rw [htype]
      refine ⟨fun hformat => ?_, fun hformat => ?_⟩
      · rw [hformat] at hdates
        cases hdates
      · rw [hformat] at hdates
        cases hdates
    | number _ htype | double _ htype | numberText htype _ =>
      rw [htype]
      trivial
    | integer _ htype | wholeDouble htype _ | integerText htype _ | boolean _ htype
    | booleanText htype _ =>
      rw [htype]
      exact ⟨_, rfl⟩

/-- A schema converts to values that are not converted any further, or all values are of the kind
that it converts to. -/
lemma isConverted_of_typed (h : s.Typed v) : v.isConverted = true ∨ ∀ w, s.Typed w := by
  unfold Keywords.Typed at *
  cases htype : s.type with
  | none => exact .inr fun _ => trivial
  | some t =>
    rw [htype] at h
    cases t with
    | object | array | number | unknown _ => exact .inr fun _ => trivial
    | integer =>
      obtain ⟨n, rfl⟩ := h
      exact .inl rfl
    | boolean =>
      obtain ⟨b, rfl⟩ := h
      exact .inl rfl
    | string =>
      by_cases hdate : s.format = .str "date"
      · obtain ⟨d, rfl⟩ := h.1 hdate
        exact .inl rfl
      · by_cases htime : s.format = .str "date-time"
        · obtain ⟨t, rfl⟩ := h.2 htime
          exact .inl rfl
        · exact .inr fun _ => ⟨fun heq => absurd heq hdate, fun heq => absurd heq htime⟩

/-! ## Results of schemas -/

/-- The shape of a schema that casts neither an object nor an array converts the value. -/
lemma castOwn_scalar (hobject : castsObject s v = false) (harray : castsArray s v = false)
    (h : (castOwn child s v path active).outcome = .ok r) :
    (castScalar s v path).outcome = .ok r := by
  rw [castOwn, hobject, harray, if_neg Bool.false_ne_true, if_neg Bool.false_ne_true] at h
  obtain ⟨result, hresult, hrest⟩ := bind_outcome_ok.1 h
  obtain ⟨_, -, hrest⟩ := bind_outcome_ok.1 hrest
  rwa [← Except.ok.inj hrest]

/-- Where a scalar is asked for, no object is converted. -/
lemma isObject_eq_false_of_castScalar (hscalar : s.asksForScalar = true)
    (h : (castScalar s v path).outcome = .ok r) : v.isObject = false := by
  cases castScalar_outcome_ok.1 h with
  | temporal _ _ htemporal =>
    rcases isTemporal_cases htemporal with ⟨-, t, rfl⟩ | ⟨-, d, rfl⟩ <;> rfl
  | timestamp | day => rfl
  | typed _ hr =>
    cases hr with
    | unasked _ hasks =>
      rw [hscalar] at hasks
      cases hasks
    | _ => rfl

/-- **A schema that asks for a scalar** makes a value of the kind that it converts to, whatever it
is composed of. -/
lemma castComposed_typed {depth : Nat} (hscalar : s.asksForScalar = true)
    (h : (castComposed context (castNode context depth) check s v path active).outcome = .ok r) :
    s.Typed r := by
  obtain ⟨own, all, result, hown, -⟩ := castComposed_outcome_ok.1 h
  obtain ⟨hobject, harray⟩ := castsParts_of_asksForScalar hscalar v
  have hcast := castOwn_scalar hobject harray hown
  have htyped := castScalar_typed hcast
  rcases isConverted_of_typed htyped with hconverted | hall
  · have hnot := isObject_eq_false_of_castScalar hscalar hcast
    have hsettled := Value.isSettled_of_isConverted hconverted
    rwa [castComposed_keeps hnot (isObject_of_isSettled hsettled)
      (fun c _ r => castNode_settled hsettled) hown h]
  · exact hall r

/-! ## Parts of results -/

/-- Every part of a value that a node describes is of the kind that its schema converts to, unless
it is null, or lies within a part that its schema passes over. -/
def PartsTyped (registry : Registry) (node : Node) (r : Value) : Prop :=
  ∀ s w, Governs registry node r s w → w.isNull = false → s.Typed w ∨
    ∃ t u, Governs registry node r t u ∧ Governs registry (.schema t) u s w ∧ t.Overlooks

/-- A name stands for its node in what it says of parts. -/
lemma PartsTyped.ref {registry : Registry} {name : String} {node : Node}
    (hget : registry.get? name = some node) (h : PartsTyped registry node r) :
    PartsTyped registry (.ref name) r := by
  intro s w hgoverns hnull
  cases hgoverns with
  | ref hget' hgoverns =>
    obtain rfl := Option.some.inj (hget.symm.trans hget')
    refine (h s w hgoverns hnull).imp_right ?_
    rintro ⟨t, u, htu, hsw, hover⟩
    exact ⟨t, u, .ref hget htu, hsw, hover⟩

/-- Parts of a value that a schema governs are of the right kind if the value is, and if what the
nodes below describe is, or the schema passes it over. -/
lemma PartsTyped.schema {registry : Registry} (hhere : r.isNull = false → s.Typed r)
    (hparts : s.Overlooks ∨ ∀ node u, s.Describes r node u → PartsTyped registry node u) :
    PartsTyped registry (.schema s) r := by
  intro t w hgoverns hnull
  cases hgoverns with
  | here => exact .inl (hhere hnull)
  | part hdescribes hgoverns =>
    rcases hparts with hover | hparts
    · exact .inr ⟨s, r, .here s r, .part hdescribes hgoverns, hover⟩
    · refine (hparts _ _ hdescribes t w hgoverns hnull).imp_right ?_
      rintro ⟨t', u, htu, hsw, hover⟩
      exact ⟨t', u, .part hdescribes htu, hsw, hover⟩

/-- Parts of a value that is neither an object nor an array are described by nothing. -/
lemma not_describes_scalar {node : Node} {u : Value} (hobject : r.isObject = false)
    (harray : r.isArray = false) : ¬ s.Describes r node u := by
  intro h
  cases h with
  | property => cases hobject
  | additional => cases hobject
  | item _ hitems =>
    rw [Value.isArray, hitems] at harray
    cases harray

/-- A cast of an object has parts that are of the right kind, if the nodes below cast to such. -/
lemma castObject_parts {registry : Registry}
    (hchild : ∀ c ∈ s.partNodes, ∀ v r path active, (child c v path active).outcome = .ok r →
      PartsTyped registry c r)
    (h : (castObject child s v path active).outcome = .ok r) {node : Node} {u : Value}
    (hdescribes : s.Describes r node u) : PartsTyped registry node u := by
  obtain ⟨data, declared, others, -, -, -, hdeclared, hothers, -, -, heq⟩ :=
    castObject_outcome_ok.1 h
  cases hdescribes with
  | property hnode hv =>
    obtain rfl := Value.mapping.inj heq
    obtain ⟨v, hv⟩ := Soundness.property_result hdeclared hothers hnode hv
    exact hchild _ (Keywords.mem_partNodes_declared (mem_of_lookup hnode)) _ _ _ _ hv
  | additional hnode he =>
    obtain rfl := Value.mapping.inj heq
    rw [Soundness.undeclared_result_eq hdeclared hothers] at he
    obtain ⟨v, -, hv⟩ := castExtra_schema hnode hothers _ he
    exact hchild _ (Keywords.mem_partNodes_additional hnode) _ _ _ _ hv
  | item _ hitems =>
    rw [heq] at hitems
    cases hitems

/-- A cast of an array has parts that are of the right kind, if the node for items casts to such. -/
lemma castArray_parts {registry : Registry}
    (hchild : ∀ c ∈ s.partNodes, ∀ v r path active, (child c v path active).outcome = .ok r →
      PartsTyped registry c r)
    (h : (castArray child s v path active).outcome = .ok r) {node : Node} {u : Value}
    (hdescribes : s.Describes r node u) : PartsTyped registry node u := by
  obtain ⟨items, result, -, hresult, -, -, -, rfl⟩ := castArray_outcome_ok.1 h
  cases hdescribes with
  | item hnode hitems hmem =>
    obtain rfl := Option.some.inj hitems
    obtain ⟨i, hi⟩ := List.getElem?_of_mem hmem
    obtain ⟨v, -, hv⟩ := castItems_getElem? hnode hresult hi
    exact hchild _ (Keywords.mem_partNodes_items hnode) _ _ _ _ hv

/-- Parts of a value that was converted by a schema are not described, or passed over. -/
lemma overlooks_or_not_describes (hobject : castsObject s v = false)
    (harray : castsArray s v = false) (h : (castScalar s v path).outcome = .ok r) :
    s.Overlooks ∨ ∀ node u, ¬ s.Describes r node u := by
  by_cases hover : s.Overlooks
  · exact .inl hover
  refine .inr fun node u hdescribes => ?_
  rcases (castScalar_outcome_ok.1 h).scalarFrom with ⟨hscalar, rfl⟩ | ⟨hnot, hnot', -⟩
  · have htype : s.type = none := by
      rcases type_of_castsNeither hscalar hobject harray with htype | ⟨name, htype⟩
      · exact htype
      · exact absurd (.unknown htype) hover
    have hproperties : r.isObject = true → s.properties = none := by
      intro hr
      simpa [castsObject, htype, hr] using hobject
    cases hdescribes with
    | property hnode _ =>
      rw [Keywords.declared, hproperties rfl] at hnode
      cases hnode
    | additional hnode _ => exact hover (.untyped htype (hproperties rfl) hnode)
    | item hnode hitems _ => simp [castsArray, htype, hnode, Value.isArray, hitems] at harray
  · exact not_describes_scalar hnot hnot' hdescribes

/-- What conforms to a schema that asks for a scalar is neither an object nor an array. -/
lemma not_container_of_checkNode {registry : Registry} {limit : Int} {depth : Nat}
    (hscalar : s.asksForScalar = true)
    (h : checkNode registry limit depth (.schema s) r path = .ok []) :
    r.isObject = false ∧ r.isArray = false := by
  cases depth with
  | zero => cases h
  | succ depth =>
    have hchecked : checkSchema (checkNode registry limit depth) s r path = .ok [] := h
    have hkind : r.isNull = true ∨ hasType s r = true := by
      unfold checkSchema at hchecked
      split at hchecked
      next hnull => exact .inl (Bool.and_eq_true_iff.1 hnull).1
      next =>
        split at hchecked
        next => cases hchecked
        next =>
          unfold checkKeywords at hchecked
          simp only [bind_eq_ok, pure_eq_ok, Except.ok.injEq] at hchecked
          obtain ⟨_, -, _, -, _, -, _, -, hnone⟩ := hchecked
          simp only [List.append_eq_nil_iff] at hnone
          obtain ⟨⟨⟨⟨⟨htype, -⟩, -⟩, -⟩, -⟩, -⟩ := hnone
          right
          simpa [checkType] using htype
    unfold Keywords.asksForScalar at hscalar
    unfold hasType at hkind
    split at hscalar <;> cases r <;>
      simp_all [Value.isNull, Value.str?, isTemporal, Value.isObject, Value.isArray, Value.items?,
        Value.isNumber, Value.number?, Value.isInteger]

/-- **A schema casts to parts of the right kind**, if the nodes for parts do. -/
lemma castComposed_parts {depth : Nat} (htarget : s.targetType = .absent)
    (hcomposed : s.isComposed = true → s.asksForScalar = true)
    (hchild : ∀ c ∈ s.partNodes, ∀ v r path active,
      (castNode context depth c v path active).outcome = .ok r →
      PartsTyped context.registry c r)
    (h : (castComposed context (castNode context depth)
      (checkNode context.registry context.limit depth) s v path active).outcome = .ok r) :
    PartsTyped context.registry (.schema s) r := by
  cases hplain : s.isComposed with
  | true =>
    have hscalar := hcomposed hplain
    refine .schema (fun _ => castComposed_typed hscalar h) (.inr fun node u hdescribes => ?_)
    obtain ⟨own, all, result, -, -, -, hwhole, hmaterial⟩ := castComposed_outcome_ok.1 h
    obtain rfl := materialize_outcome_ok htarget hmaterial
    rw [requireWhole_eq, hplain, if_pos rfl] at hwhole
    obtain ⟨_, hconforms, -⟩ := bind_outcome_ok.1 hwhole
    obtain ⟨hnot, hnot'⟩ := not_container_of_checkNode (s := s.withoutAlternatives) hscalar
      (require_outcome_ok.1 hconforms)
    exact absurd hdescribes (not_describes_scalar hnot hnot')
  | false =>
    have hown := ((castComposed_plain hplain htarget).1 h).1
    cases hobject : castsObject s v with
    | true =>
      rw [castOwn, hobject, if_pos rfl] at hown
      refine .schema (fun _ => ?_) (.inr fun node u => castObject_parts hchild hown)
      unfold Keywords.Typed
      rcases castsObject_eq_true.1 hobject with htype | ⟨htype, -⟩ <;> simp [htype]
    | false =>
      cases harray : castsArray s v with
      | true =>
        rw [castOwn, hobject, harray, if_neg Bool.false_ne_true, if_pos rfl] at hown
        refine .schema (fun _ => ?_) (.inr fun node u => castArray_parts hchild hown)
        unfold Keywords.Typed
        rcases castsArray_eq_true.1 harray with htype | ⟨htype, -⟩ <;> simp [htype]
      | false =>
        have hscalar := castOwn_scalar hobject harray hown
        refine .schema (fun _ => castScalar_typed hscalar) ?_
        exact (overlooks_or_not_describes hobject harray hscalar).imp_right
          fun hnot node u hdescribes => absurd hdescribes (hnot node u)

end Casting

open Casting

/-- **Parts of results are of the kinds that their schemas ask for.** If no reachable schema selects
another or builds a record, and only schemas for scalars are composed, whatever of, then every part
of the result that is not null is of the kind that the schema which governs it converts to: a whole
number, a truth value, a date, a date with a time. The one exception are parts that lie within a
value which is passed over, for its schema asks for no known type and declares no properties. -/
theorem typed_of_cast {context : CastContext} {node : Node}
    (hs : ∀ s, context.registry.Reaches Keywords.partNodes node s → s.discriminator = none ∧
      s.targetType = .absent ∧ (s.isComposed = true → s.asksForScalar = true)) {v r : Value}
    (h : (cast context node v).outcome = .ok (.ok r)) {s : Schema} {w : Value}
    (hgoverns : Governs context.registry node r s w) (hw : w ≠ .null) :
    s.Typed w ∨ ∃ t u, Governs context.registry node r t u ∧
      Governs context.registry (.schema t) u s w ∧ t.Overlooks := by
  have hparts : PartsTyped context.registry node r := by
    refine castNode_induction (N := Keywords.partNodes)
      (H := fun s => s.discriminator = none ∧ s.targetType = .absent ∧
        (s.isComposed = true → s.asksForScalar = true))
      (M := fun _ c _ r _ => PartsTyped context.registry c r)
      ?_ ?_ ?_ hs (cast_outcome_ok.1 h)
    · exact fun _ _ _ _ _ _ hget hparts => hparts.ref hget
    · exact fun _ _ _ _ _ _ hget hparts => hparts.ref hget
    · rintro depth s v r path active ⟨hdiscriminator, htarget, hcomposed⟩ hchild h
      rcases (castSchema_outcome_ok hdiscriminator).1 h with ⟨-, rfl⟩ | ⟨-, -, hcast⟩
      · exact .schema (fun hnot => by cases hnot)
          (.inr fun node u hdescribes => absurd hdescribes (not_describes_scalar rfl rfl))
      · exact castComposed_parts htarget hcomposed hchild hcast
  refine hparts s w hgoverns ?_
  cases w with
  | null => exact absurd rfl hw
  | _ => rfl

/-- A whole number that is a number besides, and a text or a number. -/
def tally : Schema where
  type := some .integer
  allOf := some [.schema { type := some .number }]
  anyOf := some [.schema { type := some .string }, .schema { type := some .number }]

/-- Truth values in a row. -/
def flags : Schema where
  type := some .array
  items := some (.schema { type := some .boolean })

/-- Tallies under any names, and truth values under one. -/
def tallies : Schema where
  type := some .object
  properties := some [("done", .schema flags)]
  additional := .schema (.ref "Tally")

/-- The schema of tallies has a name. -/
def tallyRegistry : Registry := ⟨[("Tally", .schema tally)]⟩

/-- No schema of tallies selects another or builds a record, only that for scalars is composed, and
none passes over parts of values. -/
lemma tallies_reaches (s : Schema)
    (h : tallyRegistry.Reaches Keywords.partNodes (.schema tallies) s) :
    (s.discriminator = none ∧ s.targetType = .absent ∧
      (s.isComposed = true → s.asksForScalar = true)) ∧ ∃ t ∈ TypeName.known, s.type = some t := by
  cases h with
  | here => exact ⟨⟨rfl, rfl, by decide⟩, _, by decide, rfl⟩
  | child hc h =>
    have hparts : tallies.partNodes = [.schema flags, .ref "Tally"] := rfl
    rw [hparts] at hc
    simp only [List.mem_cons, List.not_mem_nil, or_false] at hc
    rcases hc with rfl | rfl
    · cases h with
      | here => exact ⟨⟨rfl, rfl, by decide⟩, _, by decide, rfl⟩
      | child hc h =>
        rw [List.mem_singleton.1 hc] at h
        cases h with
        | here => exact ⟨⟨rfl, rfl, by decide⟩, _, by decide, rfl⟩
        | child hc _ => cases hc
    · cases h with
      | ref hget h =>
        obtain rfl := Option.some.inj hget
        cases h with
        | here => exact ⟨⟨rfl, rfl, fun _ => rfl⟩, _, by decide, rfl⟩
        | child hc _ => cases hc

/-- A tally that is written as a text becomes a whole number, although one of its alternatives takes
texts. -/
theorem tally_typed :
    (cast ⟨tallyRegistry, .generic, 9⟩ (.schema tallies) (.mapping [(.str "ants", .str "3"),
        (.str "done", .list [.str "True"])])).outcome =
      .ok (.ok (.mapping [(.str "done", .list [.bool true]), (.str "ants", .int 3)])) ∧
    Governs tallyRegistry (.schema tallies)
      (.mapping [(.str "done", .list [.bool true]), (.str "ants", .int 3)]) tally (.int 3) ∧
    tally.Typed (.int 3) := by
  have hcast : (cast ⟨tallyRegistry, .generic, 9⟩ (.schema tallies)
      (.mapping [(.str "ants", .str "3"), (.str "done", .list [.str "True"])])).outcome =
      .ok (.ok (.mapping [(.str "done", .list [.bool true]), (.str "ants", .int 3)])) := by cbv
  have hgoverns : Governs tallyRegistry (.schema tallies)
      (.mapping [(.str "done", .list [.bool true]), (.str "ants", .int 3)]) tally (.int 3) := by
    have hextra : (Value.str "ants", Value.int 3) ∈ Validation.undeclared tallies
        [(.str "done", .list [.bool true]), (.str "ants", .int 3)] :=
      List.mem_filter.2 ⟨by simp, by decide⟩
    exact .part (.additional rfl hextra) (.ref rfl (.here _ _))
  refine ⟨hcast, hgoverns, ?_⟩
  rcases typed_of_cast (fun s h => (tallies_reaches s h).1) hcast hgoverns (by simp) with
    htyped | ⟨t, u, hgoverns, -, hover⟩
  · exact htyped
  · obtain ⟨-, name, hknown, htype⟩ := tallies_reaches t hgoverns.reaches
    cases hover with
    | untyped hnone => simp [htype] at hnone
    | unknown hunknown =>
      rw [htype] at hunknown
      obtain rfl := Option.some.inj hunknown
      simp [TypeName.known] at hknown

/-- Whole numbers under any names, without a type of its own. -/
def openTallies : Schema where
  additional := .schema (.schema { type := some .integer })

/-- A text that is governed by a schema for whole numbers stays a text, for the schema around it
asks for no type and declares no properties. -/
theorem text_passed_over :
    (∀ s, Registry.Reaches ⟨[]⟩ Keywords.partNodes (.schema openTallies) s →
      s.discriminator = none ∧ s.targetType = .absent ∧
        (s.isComposed = true → s.asksForScalar = true)) ∧
    (cast ⟨⟨[]⟩, .generic, 9⟩ (.schema openTallies) (.mapping [(.str "a", .str "3")])).outcome =
      .ok (.ok (.mapping [(.str "a", .str "3")])) ∧
    Governs ⟨[]⟩ (.schema openTallies) (.mapping [(.str "a", .str "3")])
      { type := some .integer } (.str "3") ∧
    ¬ Keywords.Typed { type := some .integer } (.str "3") := by
  have hextra : (Value.str "a", Value.str "3") ∈
      Validation.undeclared openTallies [(.str "a", .str "3")] :=
    List.mem_filter.2 ⟨by simp, by decide⟩
  refine ⟨fun s h => ?_, rfl, .part (.additional rfl hextra) (.here _ _), ?_⟩
  · cases h with
    | here => exact ⟨rfl, rfl, by decide⟩
    | child hc h =>
      rw [List.mem_singleton.1 hc] at h
      cases h with
      | here => exact ⟨rfl, rfl, by decide⟩
      | child hc _ => cases hc
  · rintro ⟨n, ⟨⟩⟩

end DataSchema
