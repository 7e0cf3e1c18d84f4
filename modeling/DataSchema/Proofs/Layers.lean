import Mathlib.Data.List.Pairwise
import DataSchema.Proofs.Overlays

set_option autoImplicit false

/-!
# Objects cast in layers

A composed schema for objects works in layers: its own shape, every member and the alternative that
is chosen each cast the properties that they declare, and the results are put over each other. If no
name is declared by two layers, a layer finds the properties that it declares as they were in the
object that is cast, and what it makes of them reaches the result. Names may be declared by several
layers if all of these keep the values under them. So the result is checked as what the layers have
made, property by property.

## Main definitions

* `DataSchema.Registry.Declares` — the properties that a node declares.
* `DataSchema.Registry.steady` — the names under which all layers keep values.
* `DataSchema.Registry.IsLayered` — schemas composed of layers.

## Main results

* `DataSchema.Casting.LayeredCast.members`, `DataSchema.Casting.LayeredCast.alternative` — what the
  layers make.
* `DataSchema.Casting.LayeredCast.whole` — checks find nothing in it.
* `DataSchema.Casting.castComposed_accepts_layers` — casts by layered schemas.
-/

namespace DataSchema

/-- The nodes that an object is cast by in any case: the schema itself, and the members of its
composition. -/
def Keywords.base (s : Schema) : List Node := .schema s :: s.allOfList

namespace Registry

/-! ## Names of layers -/

section names

variable (registry : Registry)

/-- The schema that a node stands for declares a property under a node. -/
def Declares (c : Node) (name : String) (d : Node) : Prop :=
  ∃ m, registry.Stands c m ∧ (name, d) ∈ m.declared

/-- The names that a node declares. -/
def names (c : Node) : Set String := {name | ∃ d, registry.Declares c name d}

/-- The names that one of several nodes declares. -/
def namesOf (cs : List Node) : Set String := {name | ∃ c ∈ cs, name ∈ registry.names c}

/-- The names that a node keeps. -/
def kept (c : Node) : Set String := {name | ∃ m, registry.Stands c m ∧ name ∈ m.kept}

/-- The names that one of several nodes keeps. -/
def keptOf (cs : List Node) : Set String := {name | ∃ c ∈ cs, name ∈ registry.kept c}

/-- The names that a composed schema and its members keep. Where the schema declares nothing, only
what its members make is kept. -/
def keptBase (s : Schema) : Set String :=
  (if s.properties.isSome then s.kept else ∅) ∪ registry.keptOf s.allOfList

/-- A node asks for objects, and does not allow null. -/
def AsksForObject (c : Node) : Prop :=
  ∃ m, registry.Stands c m ∧ m.type = some .object ∧ m.nullable.isTruthy = false

/-- All names that two nodes declare are among certain ones. -/
def Apart (shared : Set String) (c c' : Node) : Prop :=
  ∀ name ∈ registry.names c, name ∈ registry.names c' → name ∈ shared

instance (shared : Set String) : Std.Symm (registry.Apart shared) :=
  ⟨fun _ _ h name hname hname' => h name hname' hname⟩

end names

variable {registry : Registry} {c : Node} {m : Schema}

/-- A node declares the properties of the schema that it stands for. -/
lemma Stands.declares_iff (h : registry.Stands c m) {name : String} {d : Node} :
    registry.Declares c name d ↔ (name, d) ∈ m.declared := by
  constructor
  · rintro ⟨m', hm', hd⟩
    rwa [h.unique hm']
  · exact fun hd => ⟨m, h, hd⟩

/-- A node declares the names of the schema that it stands for. -/
lemma Stands.names_eq (h : registry.Stands c m) : registry.names c = m.names := by
  ext name
  rw [Keywords.mem_names]
  exact exists_congr fun d => h.declares_iff

/-- A node keeps the names of the schema that it stands for. -/
lemma Stands.kept_eq (h : registry.Stands c m) : registry.kept c = m.kept := by
  ext name
  constructor
  · rintro ⟨m', hm', hname⟩
    rwa [h.unique hm']
  · exact fun hname => ⟨m, h, hname⟩

/-- Declared names are kept. -/
lemma names_subset_kept (c : Node) : registry.names c ⊆ registry.kept c :=
  fun _ ⟨d, m, hm, hd⟩ => ⟨m, hm, Keywords.names_subset_kept (Keywords.mem_names.2 ⟨d, hd⟩)⟩

/-- The names that one node only declares. -/
lemma namesOf_singleton (c : Node) : registry.namesOf [c] = registry.names c := by
  ext name
  simp [namesOf]

/-- One more node adds the names that it declares. -/
lemma namesOf_append (cs : List Node) (c : Node) :
    registry.namesOf (cs ++ [c]) = registry.namesOf cs ∪ registry.names c := by
  ext name
  simp [namesOf, or_and_right, exists_or]

/-- One node keeps what it keeps, and others what they keep. -/
lemma keptOf_cons (c : Node) (cs : List Node) :
    registry.keptOf (c :: cs) = registry.kept c ∪ registry.keptOf cs := by
  ext name
  simp [keptOf]

/-- What the schema and its members declare, they keep. -/
lemma namesOf_base_subset (s : Schema) : registry.namesOf s.base ⊆ registry.keptBase s := by
  rintro name ⟨c, hc, hname⟩
  rcases List.mem_cons.1 hc with rfl | hc
  · rw [(Stands.schema s).names_eq] at hname
    refine .inl ?_
    cases hproperties : s.properties with
    | none =>
      rw [Keywords.names_eq_empty hproperties] at hname
      exact absurd hname (Set.notMem_empty name)
    | some ps => exact Keywords.names_subset_kept hname
  · exact .inr ⟨c, hc, names_subset_kept c hname⟩

/-- A schema that declares nothing and has no members declares nothing with them. -/
lemma namesOf_base_eq_empty {s : Schema} (hproperties : s.properties = none)
    (hmembers : s.allOfList = []) : registry.namesOf s.base = ∅ := by
  rw [Keywords.base, hmembers, namesOf_singleton, (Stands.schema s).names_eq,
    Keywords.names_eq_empty hproperties]

/-- A schema that declares nothing and has no members keeps nothing with them. -/
lemma keptBase_eq_empty {s : Schema} (hproperties : s.properties = none)
    (hmembers : s.allOfList = []) : registry.keptBase s = ∅ := by
  simp [keptBase, keptOf, hproperties, hmembers]

/-! ## Layered schemas -/

/-- The names under which a schema and its layers keep values. Alternatives, which are tried on
objects that do not conform to them, convert no text there. -/
def steady (registry : Registry) (T : String → Prop) (F : Binary64 → Prop) (s : Schema) :
    Set String :=
  {name | (∀ c ∈ s.base ++ Casting.alternatives s, ∀ d, registry.Declares c name d →
      registry.Keeps T F d) ∧
    ∀ c ∈ Casting.alternatives s, ∀ d, registry.Declares c name d →
      ∀ t, registry.Reaches Keywords.castNodes d t → t.Spares T}

/-- A schema for objects is composed of layers, which declare no name twice unless values are kept
under it, keep what they require, and cast properties to what conforms. -/
structure IsLayered (registry : Registry) (T : String → Prop) (F : Binary64 → Prop) (s : Schema) :
    Prop where
  /-- The schema is composed. -/
  isComposed : s.isComposed = true
  /-- It judges objects property by property. -/
  isPropertywise : s.IsPropertywise
  /-- What conforms is an object. -/
  object : s.type = some .object ∨ (∃ c ∈ s.allOfList, registry.AsksForObject c) ∨
    s.hasAlternatives = true ∧ ∀ c ∈ Casting.alternatives s, registry.AsksForObject c
  /-- Members and alternatives are layers. -/
  layers : ∀ c ∈ s.allOfList ++ Casting.alternatives s, ∃ m, registry.Stands c m ∧ m.IsLayer
  /-- The schema and its members declare no other names twice. -/
  apart : s.base.Pairwise (registry.Apart (registry.steady T F s))
  /-- Alternatives declare no other of these names. -/
  alternativesApart : ∀ c ∈ s.base, ∀ c' ∈ Casting.alternatives s,
    registry.Apart (registry.steady T F s) c c'
  /-- What the schema and its members require is kept by one of them, or by every alternative. -/
  required : ∀ c ∈ s.base, ∀ m, registry.Stands c m → ∀ name, .str name ∈ m.required →
    name ∈ registry.keptBase s ∨
      s.hasAlternatives = true ∧ ∀ c' ∈ Casting.alternatives s, name ∈ registry.kept c'
  /-- What an alternative requires, it keeps. -/
  alternativesRequired : ∀ c ∈ Casting.alternatives s, ∀ m, registry.Stands c m →
    ∀ name, .str name ∈ m.required → name ∈ m.kept
  /-- Properties are cast to what conforms. -/
  parts : ∀ c ∈ s.base ++ Casting.alternatives s, ∀ name d, registry.Declares c name d →
    registry.IsSound d ∨ registry.Keeps T F d

end Registry

/-! ## Casts by one layer -/

namespace Casting

open Validation Conformance

section layer

variable {T : String → Prop} {F : Binary64 → Prop} {context : CastContext} {depth : Nat} {c : Node}
  {m : Schema} {source : Entries} {path : Path} {active : List String}

/-- A layer casts an object by its shape, and does no more. -/
lemma castNode_layer (depth : Nat) (hc : context.registry.Stands c m) (hm : m.IsLayer)
    (hdirect : m.IsDirect) (source : Entries) (path : Path) (active : List String) :
    ∃ active', castNode context (depth + 1) c (.mapping source) path active =
      castOwn (castNode context depth) m (.mapping source) path active' := by
  obtain ⟨active', hcast⟩ := hc.castNode depth (.mapping source) path active
  refine ⟨active', hcast.trans ?_⟩
  have hnull : ∀ b, ((Value.mapping source).isNull && b) = false := fun _ => rfl
  obtain ⟨hall, halternatives⟩ := Bool.or_eq_false_iff.1 hm.plain
  have hmembers : m.allOfList = [] := by simpa using hall
  have hwhole : ∀ check r, requireWhole check m r path = pure () := fun check r => by
    rw [requireWhole_eq, hm.plain, if_neg Bool.false_ne_true, pure_bind, refuseMatch, hm.notSchema]
  rw [castSchema, hnull, hnull, if_neg Bool.false_ne_true, if_neg Bool.false_ne_true,
    dispatch_eq_none hdirect.discriminator, pure_bind]
  show castComposed context _ _ m _ path active' = _
  rw [castComposed]
  simp only [castAllOf_eq_pure hmembers, castAlternative_eq_pure halternatives, hwhole,
    materialize_eq_pure hdirect.targetType, pure_bind, bind_pure]

/-- An object conforms to a layer by its entries. -/
lemma conforms_layer {registry : Registry} (hc : registry.Stands c m) (hm : m.IsLayer)
    (depth : Nat) (es : Entries) : conforms registry (depth + 1) c (.mapping es) =
      meetsEntries (conforms registry depth) m es := by
  rw [hc.conforms, hm.meetsSchema]

/-- What a layer makes of an object. -/
lemma castLayer_made (fine : String → Value → Prop) (hc : context.registry.Stands c m)
    (hm : m.IsLayer) (hdirect : m.IsDirect) (hsource : source.Named)
    (hfine : ∀ name d w q active r, context.registry.Declares c name d →
      source.get? (.str name) = some w → (castNode context depth d w q active).outcome = .ok r →
      fine name r) {r : Value}
    (h : (castNode context (depth + 1) c (.mapping source) path active).outcome = .ok r) :
    ∃ part, r = .mapping part ∧
      source.Made (context.registry.names c) (context.registry.kept c) fine part := by
  obtain ⟨active', hcast⟩ := castNode_layer depth hc hm hdirect source path active
  rw [hcast] at h
  rw [hc.names_eq, hc.kept_eq]
  exact castOwn_made hm.toIsPropertywise hdirect.names hsource
    (fun name d w q r hd => hfine name d w q active' r ⟨m, hc, hd⟩) h

/-- An object that meets a layer is accepted by it, if the declared properties are JSON and the
nodes below the layer accept what conforms to them. -/
lemma castLayer_accepts (hc : context.registry.Stands c m) (hm : m.IsLayer) (hdirect : m.IsDirect)
    (hbelow : AcceptsBelow T F context depth m) (hsource : source.Named)
    (hmeets : meetsEntries (conforms context.registry depth) m source = true)
    (hjson : ∀ name d w, context.registry.Declares c name d → source.get? (.str name) = some w →
      w.IsJsonOf T F) :
    Accepts (castNode context (depth + 1) c (.mapping source) path active) := by
  obtain ⟨active', hcast⟩ := castNode_layer depth hc hm hdirect source path active
  rw [hcast]
  refine castOwn_accepts_propertywise hm.toIsPropertywise hdirect.names hsource hmeets
    fun name d w q hd hw => ?_
  exact hbelow d (Keywords.mem_castNodes_of_part (Keywords.mem_partNodes_declared hd)) w q active'
    (hjson name d w ⟨m, hc, hd⟩ hw) (Keywords.declared_meets hmeets hd hw)

end layer

/-! ## Casts by all layers -/

section layers

variable {T : String → Prop} {F : Binary64 → Prop} {context : CastContext} {depth : Nat}
  {s : Schema} {es : Entries} {path : Path} {active : List String}

/-- An object is to be cast in layers: it meets a layered schema, and what conforms to the nodes
below the schema and below its layers is accepted by these. -/
structure LayeredCast (T : String → Prop) (F : Binary64 → Prop) (context : CastContext)
    (depth : Nat) (s : Schema) (es : Entries) : Prop where
  /-- The schema is layered. -/
  layered : context.registry.IsLayered T F s
  /-- All schemas that take part are direct. -/
  direct : ∀ t, context.registry.Reaches Keywords.castNodes (.schema s) t → t.IsDirect
  /-- The object is JSON. -/
  json : (Value.mapping es).IsJsonOf T F
  /-- It meets the schema. -/
  meets : meetsKeywords (conforms context.registry (depth + 1)) s (.mapping es) = true
  /-- Nodes below the schema accept what conforms to them. -/
  below : AcceptsBelow T F context (depth + 1) s
  /-- Nodes below the layers accept what conforms to them. -/
  belowLayers : ∀ c ∈ s.allOfList ++ alternatives s, ∀ m, context.registry.Stands c m →
    AcceptsBelow T F context depth m

/-- What layers make of an object under a name is fine: checks by the schema and its members find
nothing in it, and it is like what was there if values are kept under the name. -/
structure LayeredCast.Fine (T : String → Prop) (F : Binary64 → Prop) (context : CastContext)
    (depth : Nat) (s : Schema) (es : Entries) (name : String) (r : Value) : Prop where
  /-- Checks find nothing. -/
  nothing : ∀ c ∈ s.base, ∀ d, context.registry.Declares c name d →
    FindsNothing context.registry context.limit depth d r
  /-- What is kept is like what was there. -/
  alike : name ∈ context.registry.steady T F s → ∃ v, es.get? (.str name) = some v ∧ v.Alike r

namespace LayeredCast

/-- Checks find nothing in what the layers have made under a name that the schema or a member
declares. -/
lemma declared_findsNothing {new kept : Set String} {fs : Entries}
    (hfs : es.Made (context.registry.namesOf s.base ∪ new) kept (Fine T F context depth s es) fs)
    {c : Node} (hc : c ∈ s.base) {name : String} {d : Node}
    (hd : context.registry.Declares c name d) {r : Value} (hr : fs.get? (.str name) = some r) :
    FindsNothing context.registry context.limit depth d r := by
  obtain ⟨v, hv, hfine, -⟩ := hfs.get name r hr
  exact (hfine (.inl ⟨c, hc, d, hd⟩)).nothing c hc d hd

/-- What a layer finds under a name that it declares: what was there, or something like it if values
are kept under the name. -/
lemma source_get? {new : Set String} {source : Entries}
    (hsource : es.Made new Set.univ (Fine T F context depth s es) source) {name : String}
    (hname : name ∈ new → name ∈ context.registry.steady T F s) {w : Value}
    (hw : source.get? (.str name) = some w) :
    ∃ v, es.get? (.str name) = some v ∧ v.Alike w ∧
      (name ∉ context.registry.steady T F s → w = v) := by
  obtain ⟨v, hv, hfine, hsame⟩ := hsource.get name w hw
  by_cases hnew : name ∈ new
  · obtain ⟨v', hv', halike⟩ := (hfine hnew).alike (hname hnew)
    exact ⟨v', hv', halike, fun hno => absurd (hname hnew) hno⟩
  · obtain rfl := hsame hnew
    exact ⟨w, hv, .same w, fun _ => rfl⟩

variable (h : LayeredCast T F context depth s es)
include h

/-! ### Properties -/

/-- Below a layer all schemas that take part are direct. -/
lemma direct_of_stands {c : Node} (hc : c ∈ s.base ++ alternatives s) {m : Schema}
    (hm : context.registry.Stands c m) {t : Schema}
    (ht : context.registry.Reaches Keywords.castNodes (.schema m) t) : t.IsDirect := by
  rw [Keywords.base, List.cons_append, List.mem_cons, List.mem_append] at hc
  rcases hc with rfl | hc | hc
  · obtain rfl := hm.unique (.schema s)
    exact h.direct t ht
  · exact h.direct t (.child (Keywords.mem_castNodes_allOf hc) (hm.reaches ht))
  · exact h.direct t (.child (Keywords.mem_castNodes_alternatives hc) (hm.reaches ht))

/-- Below a declared property all schemas that take part are direct. -/
lemma direct_of_declares {c : Node} (hc : c ∈ s.base ++ alternatives s) {name : String} {d : Node}
    (hd : context.registry.Declares c name d) {t : Schema}
    (ht : context.registry.Reaches Keywords.castNodes d t) : t.IsDirect := by
  obtain ⟨m, hm, hd⟩ := hd
  exact h.direct_of_stands hc hm
    (.child (Keywords.mem_castNodes_of_part (Keywords.mem_partNodes_declared hd)) ht)

/-- A layer declares a name under one node only. -/
lemma declares_unique {c : Node} (hc : c ∈ s.base ++ alternatives s) {name : String} {d d' : Node}
    (hd : context.registry.Declares c name d) (hd' : context.registry.Declares c name d') :
    d = d' := by
  obtain ⟨m, hm, hd⟩ := hd
  have hnames := (h.direct_of_stands hc hm (.here m)).names
  exact Option.some.inj ((lookup_eq_of_nodup hnames hd).symm.trans
    (lookup_eq_of_nodup hnames (hm.declares_iff.1 hd')))

/-- The object meets the rules for objects. -/
lemma meetsEntries : meetsEntries (conforms context.registry (depth + 1)) s es = true := by
  have hmeets := h.meets
  simp only [meetsKeywords, Bool.and_eq_true] at hmeets
  exact hmeets.1.1.2

/-- The object conforms to every member. -/
lemma member_conforms {c : Node} (hc : c ∈ s.allOfList) :
    conforms context.registry (depth + 1) c (.mapping es) = true := by
  have hmeets := h.meets
  simp only [meetsKeywords, meetsComposition, Bool.and_eq_true] at hmeets
  exact List.all_eq_true.1 hmeets.2.1.1.1 c hc

/-- Under the names that the schema and its members declare, the object has what conforms. -/
lemma declared_conforms {c : Node} (hc : c ∈ s.base) {name : String} {d : Node}
    (hd : context.registry.Declares c name d) {v : Value} (hv : es.get? (.str name) = some v) :
    ∃ depth', depth ≤ depth' ∧ conforms context.registry depth' d v = true := by
  obtain ⟨m, hm, hd⟩ := hd
  rcases List.mem_cons.1 hc with rfl | hc
  · obtain rfl := hm.unique (.schema s)
    exact ⟨depth + 1, Nat.le_succ depth, Keywords.declared_meets h.meetsEntries hd hv⟩
  · obtain ⟨m', hm', hlayer⟩ := h.layered.layers c (List.mem_append_left _ hc)
    obtain rfl := hm.unique hm'
    have hconforms := h.member_conforms hc
    rw [conforms_layer hm hlayer] at hconforms
    exact ⟨depth, Nat.le_refl depth, Keywords.declared_meets hconforms hd hv⟩

/-- What a layer finds conforms if what was there does. -/
lemma source_conforms {c : Node} (hc : c ∈ s.base ++ alternatives s) {name : String} {d : Node}
    (hd : context.registry.Declares c name d) {v w : Value} (hv : es.get? (.str name) = some v)
    (halike : v.Alike w) (hsame : name ∉ context.registry.steady T F s → w = v) {depth' : Nat}
    (hmeets : conforms context.registry depth' d v = true) :
    conforms context.registry depth' d w = true := by
  by_cases hsteady : name ∈ context.registry.steady T F s
  · rwa [← conforms_alike depth' (hsteady.1 c hc d hd).conflates v w
      (h.json.property (Entries.mem_of_get? hv)) halike]
  · rwa [hsame hsteady]

/-- Checks find nothing in what a declared property is cast to, if it conforms. -/
lemma findsNothing {c : Node} (hc : c ∈ s.base ++ alternatives s) {name : String} {d : Node}
    (hd : context.registry.Declares c name d) {depth' : Nat} (hdepth : depth ≤ depth')
    {w r : Value} {q : Path} {active : List String} (hw : w.IsJsonOf T F)
    (hmeets : conforms context.registry depth' d w = true)
    (hr : (castNode context depth' d w q active).outcome = .ok r) :
    FindsNothing context.registry context.limit depth d r := by
  rcases h.layered.parts c hc name d hd with hsound | hkeeps
  · exact (hsound.findsNothing hr).mono hdepth
  · exact (hkeeps.findsNothing (fun _ => h.direct_of_declares hc hd) hw hmeets hr).mono hdepth

/-- **What a layer makes of a property is fine**, if the property conforms or if the layer is an
alternative. -/
lemma fine_of_cast {c : Node} {name : String} {d : Node} (hd : context.registry.Declares c name d)
    {depth' : Nat} (hdepth : depth ≤ depth') {v w r : Value} {q : Path} {active : List String}
    (hv : es.get? (.str name) = some v) (halike : v.Alike w)
    (hsame : name ∉ context.registry.steady T F s → w = v)
    (hc : c ∈ s.base ∧ conforms context.registry depth' d v = true ∨ c ∈ alternatives s)
    (hr : (castNode context depth' d w q active).outcome = .ok r) :
    Fine T F context depth s es name r := by
  have hmem : c ∈ s.base ++ alternatives s :=
    List.mem_append.2 (hc.imp_left fun hbase => hbase.1)
  have hjson := h.json.property (Entries.mem_of_get? hv)
  by_cases hsteady : name ∈ context.registry.steady T F s
  · have hfits : Fits context.registry T depth' d w := by
      rcases hc with ⟨-, hmeets⟩ | hc
      · exact .inl (h.source_conforms hmem hd hv halike hsame hmeets)
      · exact .inr (hsteady.2 c hc d hd)
    have halike' := halike.trans (castNode_alike (fun _ => h.direct_of_declares hmem hd)
      (hsteady.1 c hmem d hd) (halike.isJsonOf hjson) hfits hr)
    refine ⟨fun c' hc' d' hd' => ?_, fun _ => ⟨v, hv, halike'⟩⟩
    obtain ⟨depth'', hdepth', hmeets⟩ := h.declared_conforms hc' hd' hv
    have hkeeps := hsteady.1 c' (List.mem_append_left _ hc') d' hd'
    exact (FindsNothing.of_alike hkeeps.conflates hjson hmeets halike').mono hdepth'
  · refine ⟨fun c' hc' d' hd' => ?_, fun hno => absurd hno hsteady⟩
    obtain rfl := hsame hsteady
    rcases hc with ⟨hbase, hmeets⟩ | hc
    · -- no other layer declares the name
      have heq : c = c' := by
        by_contra hne
        exact hsteady (h.layered.apart.forall hbase hc' hne name ⟨d, hd⟩ ⟨d', hd'⟩)
      subst heq
      obtain rfl := h.declares_unique hmem hd hd'
      exact h.findsNothing hmem hd hdepth hjson hmeets hr
    · exact absurd (h.layered.alternativesApart c' hc' c hc name ⟨d', hd'⟩ ⟨d, hd⟩) hsteady

/-! ### Layers -/

/-- What layers have made of the object meets the layers that the object conforms to. -/
lemma layer_meets {c : Node} (hc : c ∈ s.base ++ alternatives s) {m : Schema}
    (hm : context.registry.Stands c m) (hlayer : m.IsLayer)
    (hconforms : conforms context.registry (depth + 1) c (.mapping es) = true)
    {new : Set String} {source : Entries}
    (hsource : es.Made new Set.univ (Fine T F context depth s es) source)
    (hnew : ∀ name ∈ new, name ∈ context.registry.names c →
      name ∈ context.registry.steady T F s) :
    Conformance.meetsEntries (conforms context.registry depth) m source = true := by
  rw [conforms_layer hm hlayer] at hconforms
  refine hlayer.toIsPropertywise.meetsEntries_made h.json.named hsource hconforms
    (fun _ _ => trivial) ?_
  intro name d w hd hw
  have hdeclares : context.registry.Declares c name d := ⟨m, hm, hd⟩
  obtain ⟨v, hv, halike, hsame⟩ :=
    source_get? hsource (fun hname => hnew name hname ⟨d, hdeclares⟩) hw
  exact h.source_conforms hc hdeclares hv halike hsame (Keywords.declared_meets hconforms hd hv)

/-- **A layer that the object conforms to** accepts what layers have made of the object. -/
lemma layer_accepts {c : Node} (hc : c ∈ s.allOfList ++ alternatives s) {m : Schema}
    (hm : context.registry.Stands c m) (hlayer : m.IsLayer)
    (hconforms : conforms context.registry (depth + 1) c (.mapping es) = true)
    {new : Set String} {source : Entries}
    (hsource : es.Made new Set.univ (Fine T F context depth s es) source)
    (hnew : ∀ name ∈ new, name ∈ context.registry.names c →
      name ∈ context.registry.steady T F s) :
    Accepts (castNode context (depth + 1) c (.mapping source) path active) := by
  have hmem : c ∈ s.base ++ alternatives s := List.mem_cons_of_mem _ hc
  refine castLayer_accepts hm hlayer (h.direct_of_stands hmem hm (.here m))
    (h.belowLayers c hc m hm) hsource.named (h.layer_meets hmem hm hlayer hconforms hsource hnew)
    fun name d w hd hw => ?_
  obtain ⟨v, hv, halike, -⟩ := source_get? hsource (fun hname => hnew name hname ⟨d, hd⟩) hw
  exact halike.isJsonOf (h.json.property (Entries.mem_of_get? hv))

/-- **What a layer makes** of what layers have made of the object: a member that the object conforms
to, or an alternative. -/
lemma layer_made {c : Node} {m : Schema} (hm : context.registry.Stands c m) (hlayer : m.IsLayer)
    (hc : c ∈ s.base ∧ conforms context.registry (depth + 1) c (.mapping es) = true ∨
      c ∈ alternatives s) {new : Set String} {source : Entries}
    (hsource : es.Made new Set.univ (Fine T F context depth s es) source)
    (hnew : ∀ name ∈ new, name ∈ context.registry.names c →
      name ∈ context.registry.steady T F s) {r : Value}
    (hr : (castNode context (depth + 1) c (.mapping source) path active).outcome = .ok r) :
    ∃ part, r = .mapping part ∧ source.Made (context.registry.names c) (context.registry.kept c)
      (Fine T F context depth s es) part := by
  have hmem : c ∈ s.base ++ alternatives s :=
    List.mem_append.2 (hc.imp_left fun hbase => hbase.1)
  refine castLayer_made _ hm hlayer (h.direct_of_stands hmem hm (.here m)) hsource.named
    (fun name d w q active r hd hw hr => ?_) hr
  obtain ⟨v, hv, halike, hsame⟩ :=
    source_get? hsource (fun hname => hnew name hname ⟨d, hd⟩) hw
  refine h.fine_of_cast hd (Nat.le_refl depth) hv halike hsame (hc.imp_left fun hbase => ?_) hr
  obtain ⟨hbase, hconforms⟩ := hbase
  rw [conforms_layer hm hlayer] at hconforms
  exact ⟨hbase, Keywords.declared_meets hconforms (hm.declares_iff.1 hd) hv⟩

/-- **The shape of the schema itself**: the object is accepted, and the declared properties are
new. -/
lemma own : Yields (castOwn (castNode context (depth + 1)) s (.mapping es) path active)
    fun r => ∃ own, r = .mapping own ∧
      es.Made s.names s.kept (Fine T F context depth s es) own where
  accepts := castOwn_accepts_propertywise h.layered.isPropertywise (h.direct s (.here s)).names
    h.json.named h.meetsEntries fun _ d w q hd hw =>
      h.below d (Keywords.mem_castNodes_of_part (Keywords.mem_partNodes_declared hd)) w q active
        (h.json.property (Entries.mem_of_get? hw)) (Keywords.declared_meets h.meetsEntries hd hw)
  result _ := castOwn_made h.layered.isPropertywise (h.direct s (.here s)).names h.json.named
    fun _ _ v _ _ hd hv hr => h.fine_of_cast ⟨s, .schema s, hd⟩ (Nat.le_succ depth) hv (.same v)
      (fun _ => rfl)
      (.inl ⟨List.mem_cons_self, Keywords.declared_meets h.meetsEntries hd hv⟩) hr

/-- **Members**: each accepts what those before it have made, and adds the properties that it
declares.

**Proof sketch.** Induction on the members that are left, where those that are done have made both
what is merged and what the next one sees. A name that one of them shares with the next is steady,
since layers are apart elsewhere; so the next one accepts what it sees as it accepts the object. -/
lemma members (done : List Node) {merged source : Entries} {nodes : List Node}
    {kept : Set String} (hnodes : done ++ nodes = s.base) (hsub : ∀ c ∈ nodes, c ∈ s.allOfList)
    (hmerged : es.Made (context.registry.namesOf done) kept (Fine T F context depth s es) merged)
    (hsource : es.Made (context.registry.namesOf done) Set.univ (Fine T F context depth s es)
      source) :
    Yields (castMembers (castNode context (depth + 1)) path active merged source nodes)
      fun r => ∃ all, r = .mapping all ∧ es.Made (context.registry.namesOf s.base)
        (kept ∪ context.registry.keptOf nodes) (Fine T F context depth s es) all := by
  induction nodes generalizing done merged source kept with
  | nil =>
    rw [List.append_nil] at hnodes
    rw [hnodes] at hmerged
    exact .pure ⟨merged, rfl, hmerged.mono (by simp [Registry.keptOf])⟩
  | cons c cs ih =>
    have hc := hsub c List.mem_cons_self
    have hconforms := h.member_conforms hc
    obtain ⟨m, hm, hlayer⟩ := h.layered.layers c (List.mem_append_left _ hc)
    have hnew : ∀ name ∈ context.registry.namesOf done, name ∈ context.registry.names c →
        name ∈ context.registry.steady T F s := by
      rintro name ⟨c', hc', hname'⟩ hname
      have hpairs := h.layered.apart
      rw [← hnodes, List.pairwise_append] at hpairs
      exact hpairs.2.2 c' hc' c List.mem_cons_self name hname' hname
    unfold castMembers
    refine Yields.bind
      ⟨h.layer_accepts (List.mem_append_left _ hc) hm hlayer hconforms hsource hnew, fun part =>
        h.layer_made hm hlayer (.inl ⟨List.mem_cons_of_mem _ hc, hconforms⟩) hsource hnew⟩ ?_
    rintro _ ⟨part, rfl, hpart⟩
    have hmerged' := hmerged.merge hsource hpart (Registry.names_subset_kept c)
    have hsource' := hsource.merge hsource hpart (Registry.names_subset_kept c)
    rw [← Registry.namesOf_append] at hmerged' hsource'
    rw [Set.univ_union] at hsource'
    rw [Registry.keptOf_cons, ← Set.union_assoc]
    exact ih _ ((List.append_assoc done [c] cs).trans hnodes)
      (fun c' hc' => hsub c' (List.mem_cons_of_mem c hc')) hmerged' hsource'

/-- **All members of a composition**: the object is accepted, and all properties that the schema and
its members declare are new. The members begin with what the schema itself has made. -/
lemma allOf {own : Entries} (hown : es.Made s.names s.kept (Fine T F context depth s es) own) :
    Yields (castAllOf (castNode context (depth + 1)) s (.mapping es) (.mapping own) path active)
      fun r => ∃ all, r = .mapping all ∧ es.Made (context.registry.namesOf s.base)
        (context.registry.keptBase s) (Fine T F context depth s es) all := by
  have hnames : context.registry.namesOf [.schema s] = s.names :=
    (Registry.namesOf_singleton _).trans (Registry.Stands.schema s).names_eq
  have hsource := hown.overlaid h.json.named Keywords.names_subset_kept
  rw [← hnames] at hown hsource
  unfold castAllOf
  split
  next hempty =>
    have hmembers : s.allOfList = [] := List.isEmpty_iff.1 hempty
    have hbase : s.base = [.schema s] := congrArg _ hmembers
    rw [hbase]
    refine .pure ⟨own, rfl, hown.mono ?_⟩
    rw [Registry.keptBase, hmembers]
    split <;> simp [Registry.keptOf]
  next =>
    show Yields (castMembers _ path active _ (Entries.merge es own) s.allOfList) _
    refine h.members [.schema s] rfl (fun c hc => hc) ?_ hsource
    split
    next => exact hown
    next hno =>
      -- the results of members are put over nothing, and nothing is declared
      have hproperties : s.properties = none := by simpa using hno
      rw [hnames, Keywords.names_eq_empty hproperties]
      exact .nil

/-- Checks find nothing in what an alternative makes, if the object conforms to it. -/
lemma alternative_findsNothing {c : Node} (hc : c ∈ alternatives s) {m : Schema}
    (hm : context.registry.Stands c m) (hlayer : m.IsLayer)
    (hconforms : conforms context.registry (depth + 1) c (.mapping es) = true)
    {new : Set String} {source : Entries}
    (hsource : es.Made new Set.univ (Fine T F context depth s es) source)
    (hnew : ∀ name ∈ new, name ∈ context.registry.names c →
      name ∈ context.registry.steady T F s) {r : Value}
    (hr : (castNode context (depth + 1) c (.mapping source) path active).outcome = .ok r) :
    FindsNothing context.registry context.limit (depth + 1) c r := by
  have hmem : c ∈ s.base ++ alternatives s := List.mem_append_right _ hc
  have hentries := h.layer_meets hmem hm hlayer hconforms hsource hnew
  have hfine : ∀ name d w q active r, context.registry.Declares c name d →
      source.get? (.str name) = some w → (castNode context depth d w q active).outcome = .ok r →
      FindsNothing context.registry context.limit depth d r := by
    intro name d w q active r hd hw hr
    obtain ⟨v, hv, halike, -⟩ := source_get? hsource (fun hname => hnew name hname ⟨d, hd⟩) hw
    exact h.findsNothing hmem hd (Nat.le_refl depth)
      (halike.isJsonOf (h.json.property (Entries.mem_of_get? hv)))
      (Keywords.declared_meets hentries (hm.declares_iff.1 hd) hw) hr
  obtain ⟨part, rfl, hpart⟩ := castLayer_made
    (fun name r => ∀ d, context.registry.Declares c name d →
      FindsNothing context.registry context.limit depth d r)
    hm hlayer (h.direct_of_stands hmem hm (.here m)) hsource.named
    (fun name d w q active r hd hw hr d' hd' =>
      h.declares_unique hmem hd hd' ▸ hfine name d w q active r hd hw hr) hr
  refine .of_meets hm fun below test hbelow htest => ?_
  obtain rfl := Nat.succ.inj hbelow
  rw [hlayer.meetsSchema]
  refine hlayer.toIsPropertywise.meetsEntries_made hsource.named hpart hentries
    (fun name hname => ?_) ?_
  · rw [hm.kept_eq]
    exact h.layered.alternativesRequired c hc m hm name hname
  · intro name d r hd hr
    obtain ⟨w, hw, hfine, -⟩ := hpart.get name r hr
    have hdeclares : context.registry.Declares c name d := ⟨m, hm, hd⟩
    exact htest d r (hfine ⟨d, hdeclares⟩ d hdeclares)

/-- **Alternatives**: one of them is chosen, and adds the properties that it declares.

**Proof sketch.** Some alternative that the object conforms to accepts what the layers before have
made, and checks find nothing in its result. Another may be chosen, but whichever it is, it adds
what it declares: to what was there, or, where no layer before declares anything, as the whole. -/
lemma alternative {all : Entries} (hall : es.Made (context.registry.namesOf s.base)
      (context.registry.keptBase s) (Fine T F context depth s es) all) :
    Yields (castAlternative (castNode context (depth + 1))
      (checkNode context.registry context.limit (depth + 1)) s (.mapping es) (.mapping all) path
        active)
      fun r => ∃ new kept fs, r = .mapping fs ∧ es.Made (context.registry.namesOf s.base ∪ new)
        (context.registry.keptBase s ∪ kept) (Fine T F context depth s es) fs ∧
        (s.hasAlternatives = true → ∃ c ∈ alternatives s, kept = context.registry.kept c) := by
  have hsource := hall.overlaid h.json.named (Registry.namesOf_base_subset s)
  have hlayer : ∀ c ∈ alternatives s, ∃ m, context.registry.Stands c m ∧ m.IsLayer :=
    fun c hc => h.layered.layers c (List.mem_append_right _ hc)
  have hnew : ∀ c ∈ alternatives s, ∀ name ∈ context.registry.namesOf s.base,
      name ∈ context.registry.names c → name ∈ context.registry.steady T F s := by
    rintro c hc name ⟨c', hc', hname'⟩ hname
    exact h.layered.alternativesApart c' hc' c hc name hname' hname
  cases hsome : s.hasAlternatives with
  | false =>
    rw [castAlternative_eq_pure hsome]
    refine .pure ⟨∅, ∅, all, rfl, ?_, fun hno => by cases hno⟩
    rwa [Set.union_empty, Set.union_empty]
  | true =>
    refine ⟨castAlternative_accepts fun _ => ?_, fun r hr => ?_⟩
    · obtain ⟨c, hc, hconforms⟩ := alternative_meets h.meets hsome
      obtain ⟨m, hm, hlayer⟩ := hlayer c hc
      exact ⟨c, hc, h.layer_accepts (List.mem_append_right _ hc) hm hlayer hconforms hsource
        (hnew c hc), fun r hr => h.alternative_findsNothing hc hm hlayer hconforms hsource
          (hnew c hc) hr path⟩
    · obtain ⟨c, hc, chosen, hchosen, -, rfl⟩ := castAlternative_outcome_ok hsome hr
      obtain ⟨m, hm, hlayer⟩ := hlayer c hc
      obtain ⟨part, rfl, hpart⟩ := h.layer_made hm hlayer (.inr hc) hsource (hnew c hc) hchosen
      have hsub : context.registry.names c ⊆ context.registry.kept c :=
        Registry.names_subset_kept c
      refine ⟨context.registry.names c, context.registry.kept c, ?_⟩
      unfold combine
      split
      next hempty =>
        obtain ⟨hproperties, hmembers⟩ := Bool.and_eq_true_iff.1 hempty
        have hnone : s.properties = none := Option.isNone_iff_eq_none.1 hproperties
        have hempty : s.allOfList = [] := List.isEmpty_iff.1 hmembers
        rw [Registry.namesOf_base_eq_empty hnone hempty] at hsource ⊢
        rw [Registry.keptBase_eq_empty hnone hempty, Set.empty_union, Set.empty_union]
        exact ⟨part, rfl, hsource.alone hpart hsub, fun _ => ⟨c, hc, rfl⟩⟩
      next => exact ⟨_, rfl, hall.merge hsource hpart hsub, fun _ => ⟨c, hc, rfl⟩⟩

section

variable {new kept : Set String} {fs : Entries}
  (hfs : es.Made (context.registry.namesOf s.base ∪ new) (context.registry.keptBase s ∪ kept)
    (Fine T F context depth s es) fs)
  (hkept : s.hasAlternatives = true → ∃ c ∈ alternatives s, kept = context.registry.kept c)

include hkept

omit hfs in
/-- What the schema or a member requires is among the properties that are kept: in the layers that
always apply, or else in whichever alternative is chosen. -/
lemma required_kept {c : Node} (hc : c ∈ s.base) {m : Schema} (hm : context.registry.Stands c m)
    {name : String} (hname : .str name ∈ m.required) :
    name ∈ context.registry.keptBase s ∪ kept := by
  rcases h.layered.required c hc m hm name hname with hbase | ⟨hsome, hall⟩
  · exact .inl hbase
  · obtain ⟨c', hc', rfl⟩ := hkept hsome
    exact .inr (hall c' hc')

include hfs

/-- Checks by a member find nothing in what the layers have made. -/
lemma member_findsNothing {c : Node} (hc : c ∈ s.allOfList) :
    FindsNothing context.registry context.limit depth c (.mapping fs) := by
  have hbase : c ∈ s.base := List.mem_cons_of_mem _ hc
  obtain ⟨m, hm, hlayer⟩ := h.layered.layers c (List.mem_append_left _ hc)
  have hmeets := h.member_conforms hc
  rw [conforms_layer hm hlayer] at hmeets
  refine .of_meets hm fun below test hbelow htest => ?_
  rw [hlayer.meetsSchema]
  refine hlayer.toIsPropertywise.meetsEntries_made h.json.named hfs hmeets
    (fun _ hname => h.required_kept hkept hbase hm hname) fun name d r hd hr => htest d r ?_
  exact (declared_findsNothing hfs hbase ⟨m, hm, hd⟩ hr).mono (by omega)

/-- Checks by the schema, its alternatives left out, find nothing in what the layers have made. -/
lemma whole_findsNothing : FindsNothing context.registry context.limit (depth + 1)
    (.schema s.withoutAlternatives) (.mapping fs) := by
  refine .of_meets (.schema _) fun below test hbelow htest => ?_
  obtain rfl := Nat.succ.inj hbelow
  rw [h.layered.isPropertywise.withoutAlternatives.meetsSchema, Bool.and_eq_true]
  constructor
  · refine h.layered.isPropertywise.meetsEntries_made h.json.named hfs h.meetsEntries
      (fun _ hname => h.required_kept hkept List.mem_cons_self (.schema s) hname) ?_
    exact fun name d r hd hr =>
      htest d r (declared_findsNothing hfs List.mem_cons_self ⟨s, .schema s, hd⟩ hr)
  · have hall : (s.allOfList.all fun c => test c (.mapping fs)) = true :=
      List.all_eq_true.2 fun c hc => htest c _ (h.member_findsNothing hfs hkept hc)
    have hnot : s.notSchema = none := h.layered.isPropertywise.notSchema
    show ((s.allOfList.all _ && true && true) && s.notSchema.all _) = true
    rw [hall, hnot]
    rfl

/-- **The whole**: nothing that is asked of the composed value fails on what the layers have
made. -/
lemma whole : Accepts
    (requireWhole (checkNode context.registry context.limit (depth + 1)) s (.mapping fs) path) := by
  rw [requireWhole_eq, refuseMatch, h.layered.isPropertywise.notSchema, h.layered.isComposed,
    if_pos rfl]
  exact .bind (.require (h.whole_findsNothing hfs hkept path)) fun _ _ => .pure ()

end

end LayeredCast

/-- What conforms to a node that asks for objects is one. -/
lemma isObject_of_conforms {registry : Registry} {c : Node} (hc : registry.AsksForObject c)
    {v : Value} (hmeets : conforms registry depth c v = true) : v.isObject = true := by
  obtain ⟨m, hm, htype, hnullable⟩ := hc
  cases depth with
  | zero => cases hmeets
  | succ depth =>
    rw [hm.conforms] at hmeets
    have hkeywords := meetsKeywords_of_meetsSchema (by rw [hnullable, Bool.and_false]) hmeets
    simp only [meetsKeywords, Bool.and_eq_true] at hkeywords
    have hobject := hkeywords.1.1.1.1.1
    unfold meetsType at hobject
    rwa [htype] at hobject

/-- What conforms to a layered schema is an object, and there is depth for its layers. -/
lemma isObject_of_layered {registry : Registry} (hs : registry.IsLayered T F s) {v : Value}
    (hmeets : meetsKeywords (conforms registry depth) s v = true) :
    v.isObject = true ∧ depth ≠ 0 := by
  have hkeywords := hmeets
  simp only [meetsKeywords, meetsComposition, Bool.and_eq_true] at hkeywords
  have hmember : ∀ c ∈ s.allOfList, conforms registry depth c v = true :=
    List.all_eq_true.1 hkeywords.2.1.1.1
  constructor
  · rcases hs.object with htype | ⟨c, hc, hobject⟩ | ⟨hsome, hall⟩
    · have hobject := hkeywords.1.1.1.1.1
      unfold meetsType at hobject
      rwa [htype] at hobject
    · exact isObject_of_conforms hobject (hmember c hc)
    · obtain ⟨c, hc, hconforms⟩ := alternative_meets hmeets hsome
      exact isObject_of_conforms (hall c hc) hconforms
  · have hsome : ∃ c, conforms registry depth c v = true := by
      rcases Bool.or_eq_true_iff.1 hs.isComposed with hmembers | halternatives
      · obtain ⟨c, hc⟩ := List.exists_mem_of_ne_nil s.allOfList (by simpa using hmembers)
        exact ⟨c, hmember c hc⟩
      · obtain ⟨c, -, hconforms⟩ := alternative_meets hmeets halternatives
        exact ⟨c, hconforms⟩
    obtain ⟨c, hconforms⟩ := hsome
    rintro rfl
    cases hconforms

/-- **Layered schemas accept objects that conform.**

**Proof sketch.** The schema itself and its members have names apart, so each of them casts its
properties as they were, and no other layer replaces what it makes. The same goes for the
alternative that is chosen, though it need not be one that the object conforms to. What is checked
afterwards is what the layers have made, under the names that they declare. -/
theorem castComposed_accepts_layers {v : Value} (hs : context.registry.IsLayered T F s)
    (hdirect : ∀ t, context.registry.Reaches Keywords.castNodes (.schema s) t → t.IsDirect)
    (hbelow : AcceptsBelow T F context depth s)
    (hlayers : ∀ c ∈ s.allOfList ++ alternatives s, ∀ m, context.registry.Stands c m →
      ∀ below < depth, AcceptsBelow T F context below m)
    (hv : v.IsJsonOf T F)
    (hmeets : meetsKeywords (conforms context.registry depth) s v = true) :
    Accepts (castComposed context (castNode context depth)
      (checkNode context.registry context.limit depth) s v path active) := by
  obtain ⟨hobject, hdepth⟩ := isObject_of_layered hs hmeets
  obtain ⟨es, rfl⟩ := hv.of_isObject hobject
  obtain ⟨depth, rfl⟩ := Nat.exists_eq_succ_of_ne_zero hdepth
  have hcast : LayeredCast T F context depth s es :=
    ⟨hs, hdirect, hv, hmeets, hbelow, fun c hc m hm => hlayers c hc m hm depth (Nat.lt_succ_self _)⟩
  unfold castComposed
  refine .bind hcast.own.accepts fun r hr => ?_
  obtain ⟨own, rfl, hown⟩ := hcast.own.result r hr
  refine .bind (hcast.allOf hown).accepts fun r hr => ?_
  obtain ⟨all, rfl, hall⟩ := (hcast.allOf hown).result r hr
  refine .bind (hcast.alternative hall).accepts fun r hr => ?_
  obtain ⟨new, kept, fs, rfl, hfs, hkept⟩ := (hcast.alternative hall).result r hr
  refine .bind (hcast.whole hfs hkept) fun _ _ => ?_
  rw [materialize_eq_pure (hdirect s (.here s)).targetType]
  exact .pure _

end layers

end Casting

end DataSchema
