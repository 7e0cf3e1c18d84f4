import DataSchema.Proofs.CastLeeway
import DataSchema.Proofs.Descent

set_option autoImplicit false

/-!
# Casts of parts in place and alone

A property of an object is cast with the name of the object open, and so are the items of an array
in it. Apart from that the cast of a part is the cast of that part alone: neither where it stands
nor how much depth is left matters. The name matters to discriminators only, which do not select
what is open; so a part is cast in place as it is cast alone unless a discriminator selects, in the
cast alone, a name that is open in place.

## Main definitions

* `DataSchema.Keywords.IsPlain` — schemas that cast by their own shape.
* `DataSchema.CastInPlace` — a result in place against the result alone.

## Main results

* `DataSchema.Casting.castNode_det` — results do not depend on depth and place.
* `DataSchema.castInPlace_of_outcome` — a result in place is the result alone, unless a name that is
  open is selected.
* `DataSchema.cast_property_in_place` — properties of objects, and items of arrays in them.
-/

namespace DataSchema

/-- A schema that casts by its own shape: it is not composed, selects no other schema, and builds no
record. -/
structure Keywords.IsPlain (s : Schema) : Prop where
  composed : s.isComposed = false
  discriminator : s.discriminator = none
  targetType : s.targetType = .absent

namespace Casting

variable {context context' : CastContext}

/-- A plain schema casts what is not null by its own shape. -/
lemma castSchema_plain {child : NodeCaster} {check : NodeChecker} {s : Schema} {v r : Value}
    {path : Path} {active : List String} (hs : s.IsPlain) (hv : v.isNull = false)
    (h : (castSchema context child check s v path active).outcome = .ok r) :
    (castOwn child s v path active).outcome = .ok r := by
  rcases (castSchema_outcome_ok hs.discriminator).1 h with ⟨hnull, -⟩ | ⟨-, -, hcast⟩
  · rw [hv] at hnull
    cases hnull
  · exact ((castComposed_plain hs.composed hs.targetType).1 hcast).1

/-- A node that stands for a schema casts by it, with the name that leads there open. -/
lemma castNode_resolved {node : Node} {s : Schema} {name? : Option String}
    (hnode : context.registry.resolve? node = some (.schema s, name?)) (depth : Nat) (v : Value)
    (path : Path) (active : List String) :
    castNode context (depth + 1) node v path active =
      castSchema context (castNode context depth)
        (Validation.checkNode context.registry context.limit depth) s v path
        (name?.toList ++ active) := by
  cases node with
  | schema t =>
    cases hnode
    rfl
  | ref name =>
    obtain ⟨target, hget, heq⟩ := Option.map_eq_some_iff.1 hnode
    cases heq
    exact castNode_named hget (depth + 1) v path active

variable (hregistry : context.registry = context'.registry)
  (htypes : context.types = context'.types)

include hregistry htypes

/-- A result with some depth left is, wherever the value stands, the result with more. -/
lemma castNode_mono {depth depth' : Nat} (hdepth : depth ≤ depth') {node : Node} {v r : Value}
    {path : Path} (path' : Path) {names : List String}
    (h : (castNode context depth node v path names).outcome = .ok r) :
    (castNode context' depth' node v path' names).outcome = .ok r := by
  have hsame := castNode_deeper hregistry htypes path path' hdepth names node v path path'
    ⟨[], (List.append_nil path).symm, (List.append_nil path').symm⟩
  exact hsame.outcome_ok h fun e _ hevent => hevent

/-- **Results do not depend on depth and place**: two casts by a node with the same names open give
the same if both succeed. -/
theorem castNode_det {depth depth' : Nat} {node : Node} {v r r' : Value} {path path' : Path}
    {names : List String} (h : (castNode context depth node v path names).outcome = .ok r)
    (h' : (castNode context' depth' node v path' names).outcome = .ok r') : r = r' := by
  rcases Nat.le_total depth depth' with hle | hle
  · rw [castNode_mono hregistry htypes hle path' h] at h'
    exact Except.ok.inj h'
  · rw [castNode_mono hregistry.symm htypes.symm hle path h'] at h
    exact (Except.ok.inj h).symm

end Casting

/-- What a node makes of a value in place, where names are open: it is what the node makes of the
value with these names open and nothing around it, and it is what the cast of the value alone makes,
within any depth, unless a discriminator selects one of the names there. -/
structure CastInPlace (context : CastContext) (names : List String) (node : Node) (v r : Value) :
    Prop where
  within : (Casting.castNode context context.limit.toNat node v [] names).outcome = .ok r
  alone : ∀ context' : CastContext, context'.registry = context.registry →
    context'.types = context.types → ∀ r', (cast context' node v).outcome = .ok (.ok r') →
    (∀ e ∈ (cast context' node v).events, e.selects names = false) → r = r'

/-- **In place as alone**: what a node makes of a value somewhere below a limit, with names open
that the registry has, is what it makes of the value alone unless one of the names is selected.

**Proof sketch.** The cast alone is the cast with the names open, for it selects none of them, and
that is the cast in place, for it differs in depth and place only. -/
theorem castInPlace_of_outcome {context : CastContext} {names : List String}
    (hnames : ∀ name ∈ names, (context.registry.get? name).isSome) {depth : Nat}
    (hdepth : depth ≤ context.limit.toNat) {node : Node} {v r : Value} {path : Path}
    (h : (Casting.castNode context depth node v path names).outcome = .ok r) :
    CastInPlace context names node v r where
  within := Casting.castNode_mono rfl rfl hdepth [] h
  alone := by
    intro context' hregistry htypes r' hr' hevents
    rw [cast_events] at hevents
    rw [← hregistry] at hnames
    have hcontains : ∀ name, ([] : List String).contains name = names.contains name ∨
        ([] : List String).contains name = false ∧ name ∈ names := by
      intro name
      cases hname : names.contains name with
      | true => exact .inr ⟨rfl, List.contains_iff_mem.1 hname⟩
      | false => exact .inl rfl
    have hopen := Casting.castNode_open context' hnames context'.limit.toNat hcontains node v [] []
      rfl
    have hwithin := hopen.outcome_ok (cast_outcome_ok.1 hr') fun e he hevent =>
      Bool.eq_false_iff.1 (hevents e he) hevent
    exact Casting.castNode_det hregistry.symm htypes.symm h hwithin

namespace Casting

variable {context : CastContext}

/-- The names that a node leads through are in the registry. -/
lemma get?_of_resolve? {registry : Registry} {node : Node} {found : Node × Option String}
    (h : registry.resolve? node = some found) :
    ∀ name ∈ found.2.toList, (registry.get? name).isSome := by
  cases node with
  | schema s =>
    cases h
    simp
  | ref name =>
    obtain ⟨target, hget, heq⟩ := Option.map_eq_some_iff.1 h
    cases heq
    simp [hget]

/-- A declared property of an object that a plain schema casts is cast by its node, one step down
and with the names open that lead to the schema. -/
lemma castNode_property {node : Node} {s : Schema} {name? : Option String}
    (hnode : context.registry.resolve? node = some (.schema s, name?)) (hs : s.IsPlain)
    {property : String} {child : Node} (hchild : s.declared.lookup property = some child)
    {es : Entries} (hobject : castsObject s (.mapping es) = true) {v : Value}
    (hv : es.get? (.str property) = some v) {depth : Nat} {path : Path} {active : List String}
    {r : Value} (h : (castNode context depth node (.mapping es) path active).outcome = .ok r) :
    ∃ a below, below ≤ depth ∧ r.entries.get? (.str property) = some a ∧
      (castNode context below child v (path ++ [.str property]) (name?.toList ++ active)).outcome =
        .ok a := by
  cases depth with
  | zero => cases h
  | succ depth =>
    rw [castNode_resolved hnode] at h
    have hown := castSchema_plain hs rfl h
    rw [castOwn, if_pos hobject] at hown
    obtain ⟨data, declared, others, hview, -, -, hdeclared, -, -, -, rfl⟩ :=
      castObject_outcome_ok.1 hown
    obtain rfl := Option.some.inj hview
    rcases castDeclared_get? hdeclared hchild with ⟨hnone, -⟩ | ⟨w, a, hw, ha, hget⟩
    · rw [hv] at hnone
      cases hnone
    · rw [hv] at hw
      obtain rfl := Option.some.inj hw
      have hentries : Entries.get? (declared ++ others) (.str property) = some a := by
        rw [Entries.get?_append, hget]
        rfl
      exact ⟨a, depth, Nat.le_succ depth, hentries, ha⟩

/-- The items of an array that a plain schema casts are cast one by one by the node for items, one
step down and with the names open that lead to the schema. -/
lemma castNode_items {node : Node} {s : Schema} {name? : Option String}
    (hnode : context.registry.resolve? node = some (.schema s, name?)) (hs : s.IsPlain)
    {child : Node} (hchild : s.items = some child) {v : Value} (harray : castsArray s v = true)
    {items : List Value} (hitems : v.items? = some items) {depth : Nat} {path : Path}
    {active : List String} {r : Value}
    (h : (castNode context depth node v path active).outcome = .ok r) :
    ∃ results below, below ≤ depth ∧ r = .list results ∧ results.length = items.length ∧
      ∀ (i : Nat) x y, items[i]? = some x → results[i]? = some y →
        (castNode context below child x (path ++ [.int i]) (name?.toList ++ active)).outcome =
          .ok y := by
  cases depth with
  | zero => cases h
  | succ depth =>
    rw [castNode_resolved hnode] at h
    have hnull : v.isNull = false := by
      cases v <;> simp_all [Value.items?, Value.isNull]
    have hnot : v.isObject = false := by
      cases v <;> simp_all [Value.items?, Value.isObject]
    have hobject : castsObject s v = false := by
      rw [Bool.eq_false_iff, ne_eq, castsObject_eq_true]
      rcases castsArray_eq_true.1 harray with htype | ⟨htype, -⟩ <;> simp [htype, hnot]
    have hown := castSchema_plain hs hnull h
    rw [castOwn, hobject, if_neg Bool.false_ne_true, if_pos harray] at hown
    obtain ⟨items', results, hitems', hresults, -, -, -, rfl⟩ := castArray_outcome_ok.1 hown
    rw [hitems] at hitems'
    obtain rfl := Option.some.inj hitems'
    refine ⟨results, depth, Nat.le_succ depth, rfl, castItems_length hresults, ?_⟩
    intro i x y hx hy
    obtain ⟨x', hx', hcast⟩ := castItems_getElem? hchild hresults hy
    rw [hx] at hx'
    obtain rfl := Option.some.inj hx'
    exact hcast

end Casting

open Casting

/-- **Properties are cast in place as alone.** In the cast of an object by a name that stands for a
plain schema, a declared property is cast as it is alone, unless a discriminator selects that name
in the cast alone. The same holds of the items of a property that is an array, where a name that the
property refers to is open too. -/
theorem cast_property_in_place {context : CastContext} {name : String} {s : Schema}
    (hname : context.registry.get? name = some (.schema s)) (hs : s.IsPlain) {property : String}
    {node : Node} (hproperty : s.declared.lookup property = some node) {es : Entries}
    (hobject : castsObject s (.mapping es) = true) {v : Value}
    (hv : es.get? (.str property) = some v) {r : Value}
    (hr : (cast context (.ref name) (.mapping es)).outcome = .ok (.ok r)) :
    ∃ a, r.entries.get? (.str property) = some a ∧ CastInPlace context [name] node v a ∧
      ∀ t inner? child items, context.registry.resolve? node = some (.schema t, inner?) →
        t.IsPlain → t.items = some child → castsArray t v = true → v.items? = some items →
        ∃ results, a = .list results ∧ results.length = items.length ∧
          ∀ (i : Nat) x y, items[i]? = some x → results[i]? = some y →
            CastInPlace context (inner?.toList ++ [name]) child x y := by
  have hresolve : context.registry.resolve? (.ref name) = some (.schema s, some name) := by
    rw [Registry.resolve?, hname]
    rfl
  have hopen : ∀ name' ∈ [name], (context.registry.get? name').isSome :=
    get?_of_resolve? hresolve
  obtain ⟨a, depth, hdepth, hget, ha⟩ :=
    castNode_property hresolve hs hproperty hobject hv (cast_outcome_ok.1 hr)
  refine ⟨a, hget, castInPlace_of_outcome hopen hdepth ha, ?_⟩
  intro t inner? child items hnode ht hchild harray hitems
  obtain ⟨results, below, hbelow, hlist, hlength, heach⟩ :=
    castNode_items hnode ht hchild harray hitems ha
  refine ⟨results, hlist, hlength, fun i x y hx hy => ?_⟩
  refine castInPlace_of_outcome (fun name' hmem => ?_) (Nat.le_trans hbelow hdepth)
    (heach i x y hx hy)
  rcases List.mem_append.1 hmem with hmem | hmem
  · exact get?_of_resolve? hnode name' hmem
  · exact hopen name' hmem

/-- A text. -/
def someText : Node := .schema { type := some .string }

/-- A pet, which is of the kind that it names. -/
def pet : Schema where
  type := some .object
  properties := some [("kind", someText)]
  discriminator := some ⟨"kind", []⟩

/-- A dog, which has a name. -/
def dog : Schema where
  type := some .object
  properties := some [("kind", someText), ("name", someText)]

/-- A cat, which has a name and a pet for a friend. -/
def cat : Schema where
  type := some .object
  properties := some [("kind", someText), ("name", someText), ("friend", .ref "Pet")]

/-- Pets, of which there are cats and dogs. -/
def pets : Registry := ⟨[("Pet", .schema pet), ("Cat", .schema cat), ("Dog", .schema dog)]⟩

/-- An animal of a kind, with a name. -/
def animal (kind name : String) : Entries := [(.str "kind", .str kind), (.str "name", .str name)]

/-- An animal of a kind with a friend. -/
def befriended (kind name : String) (friend : Value) : Value :=
  .mapping (animal kind name ++ [(.str "friend", friend)])

/-- The friend of a cat, a dog, is cast in place as it is alone. -/
theorem dog_in_place :
    (cast ⟨pets, .generic, 9⟩ (.ref "Cat")
        (befriended "Cat" "Tom" (.mapping (animal "Dog" "Rex")))).outcome =
      .ok (.ok (befriended "Cat" "Tom" (.mapping (animal "Dog" "Rex")))) ∧
    CastInPlace ⟨pets, .generic, 9⟩ ["Cat"] (.ref "Pet") (.mapping (animal "Dog" "Rex"))
      (.mapping (animal "Dog" "Rex")) := by
  have hcast : (cast ⟨pets, .generic, 9⟩ (.ref "Cat")
        (befriended "Cat" "Tom" (.mapping (animal "Dog" "Rex")))).outcome =
      .ok (.ok (befriended "Cat" "Tom" (.mapping (animal "Dog" "Rex")))) := rfl
  have hname : pets.get? "Cat" = some (.schema cat) := rfl
  have hfriend : cat.declared.lookup "friend" = some (.ref "Pet") := rfl
  obtain ⟨a, hget, hplace, -⟩ :=
    cast_property_in_place hname ⟨rfl, rfl, rfl⟩ hfriend rfl rfl hcast
  obtain rfl := Option.some.inj hget
  exact ⟨hcast, hplace⟩

/-- The friend of a cat, a cat, loses its name in place, and keeps it alone. -/
theorem cat_not_in_place :
    pets.get? "Cat" = some (.schema cat) ∧ cat.IsPlain ∧
    cat.declared.lookup "friend" = some (.ref "Pet") ∧
    (cast ⟨pets, .generic, 9⟩ (.ref "Cat")
        (befriended "Cat" "Tom" (.mapping (animal "Cat" "Kit")))).outcome =
      .ok (.ok (befriended "Cat" "Tom" (.mapping [(.str "kind", .str "Cat")]))) ∧
    (cast ⟨pets, .generic, 9⟩ (.ref "Pet") (.mapping (animal "Cat" "Kit"))).outcome =
      .ok (.ok (.mapping (animal "Cat" "Kit"))) ∧
    Value.mapping [(.str "kind", .str "Cat")] ≠ .mapping (animal "Cat" "Kit") :=
  ⟨rfl, ⟨rfl, rfl, rfl⟩, rfl, rfl, rfl, by simp [animal]⟩

end DataSchema
