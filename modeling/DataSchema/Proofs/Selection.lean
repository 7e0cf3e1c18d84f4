import Mathlib
import DataSchema.Proofs.CastRelations
import DataSchema.Proofs.CheckLeeway
import DataSchema.Proofs.Enclosure
import DataSchema.Proofs.Records

set_option autoImplicit false

/-!
# Schemas that discriminators select

A schema with a discriminator leaves an object that has a tag to the schema that the tag selects,
and takes what that one makes for its own result: neither its shape nor its members are looked at.
What the selected schema makes conforms to all schemas that it includes as members, at any remove.
So the result conforms to the schema that has selected it if the selected one includes that, as a
schema for one kind of things includes the schema for all of them.

## Main definitions

* `DataSchema.Registry.Selects` — the schemas that casts of a mapping by a node may be left to.
* `DataSchema.Registry.Includes` — the schemas that a schema includes as members.

## Main results

* `DataSchema.Casting.castNode_selects` — a mapping is cast by a schema that the node selects.
* `DataSchema.Registry.Includes.conforms` — what conforms to a schema conforms to what it includes.
* `DataSchema.selected_conforms` — casts of whole values.
-/

namespace DataSchema

/-- A node selects a schema for the entries of a mapping: the schema that it stands for, or, along
tags among the entries, what that one selects. -/
inductive Registry.Selects (r : Registry) (es : Entries) : Node → Schema → Prop
  /-- A schema may keep the mapping. -/
  | here (s : Schema) : Selects r es (.schema s) s
  /-- A reference selects what its target does. -/
  | ref {name : String} {node : Node} {s : Schema} :
    r.get? name = some node → Selects r es node s → Selects r es (.ref name) s
  /-- A discriminator selects by a tag. -/
  | tag {t : Schema} {d : Discriminator} {tag : Value} {target : String} {s : Schema} :
    t.discriminator = some d → es.get? (.str d.propertyName) = some tag →
      d.target? tag = some target → Selects r es (.ref target) s → Selects r es (.schema t) s

namespace Registry.Selects

variable {r : Registry} {es : Entries} {f : Schema}

/-- A name that selects a schema is one of the registry. -/
lemma isSome {name : String} (h : r.Selects es (.ref name) f) : (r.get? name).isSome = true := by
  cases h with
  | ref hget _ =>
    rw [hget]
    rfl

/-- Where a node builds no records, the schemas that it selects do not. -/
lemma buildsNoRecords {node : Node} (h : r.Selects es node f) (hnode : r.BuildsNoRecords node) :
    r.BuildsNoRecords (.schema f) := by
  induction h with
  | here s => exact hnode
  | ref hget _ ih => exact ih (hnode.ref hget)
  | tag hd _ _ hselects ih => exact ih (hnode.selected (by rw [hd]; rfl) hselects.isSome)

end Registry.Selects

/-- A schema includes another: a member leads to it, along members. -/
def Registry.Includes (r : Registry) (s t : Schema) : Prop :=
  ∃ c ∈ s.allOfList, r.Reaches Keywords.allOfList c t

namespace Validation

variable {registry : Registry} {limit : Int} {check : NodeChecker} {s t : Schema} {r : Value}
  {path : Path}

/-- What conforms to a schema, and is not null, conforms to its members. -/
lemma member_conforms (hr : r.isNull = false) (h : checkSchema check s r path = .ok []) {c : Node}
    (hc : c ∈ s.allOfList) : check c r path = .ok [] := by
  unfold checkSchema at h
  rw [hr, Bool.false_and, if_neg Bool.false_ne_true, Bool.false_and,
    if_neg Bool.false_ne_true] at h
  unfold checkKeywords at h
  simp only [bind_eq_ok] at h
  obtain ⟨scalar, -, object, -, array, -, composition, hcomposition, h⟩ := h
  obtain rfl := (List.append_eq_nil_iff.1 (Except.ok.inj h)).2
  unfold checkComposition at hcomposition
  simp only [bind_eq_ok] at hcomposition
  obtain ⟨all, hall, any, -, one, -, no, -, h⟩ := hcomposition
  have hnone : all = [] := by
    have h := Except.ok.inj h
    simp only [List.append_eq_nil_iff] at h
    exact h.1.1.1
  rw [hnone] at hall
  exact gather_eq_nil.1 hall c hc

/-- What conforms to a node, and is not null, conforms to the schemas that the node leads to along
members. -/
lemma reached_conforms (hr : r.isNull = false) {depth : Nat} {c : Node}
    (hreach : registry.Reaches Keywords.allOfList c t)
    (h : checkNode registry limit depth c r path = .ok []) :
    checkNode registry limit depth (.schema t) r path = .ok [] := by
  induction hreach generalizing depth with
  | here => exact h
  | @ref name node s hget _ ih =>
    cases depth with
    | zero => cases h
    | succ depth =>
      cases node with
      | schema t =>
        rw [checkNode_named hget] at h
        exact ih h
      | ref other =>
        rw [checkNode_link hget] at h
        exact checkNode_mono depth.le_succ (ih h)
  | @child t node s hc _ ih =>
    cases depth with
    | zero => cases h
    | succ depth =>
      have hmember : checkNode registry limit depth node r path = .ok [] :=
        member_conforms hr h hc
      exact checkNode_mono depth.le_succ (ih hmember)

end Validation

namespace Casting

variable {context : CastContext} {child : NodeCaster} {check : NodeChecker} {s t : Schema}
  {d : Discriminator} {es : Entries} {tag r : Value} {target : String} {path : Path}
  {active : List String} {depth : Nat}

/-- A mapping is cast by what a schema selects, or else by the schema itself. -/
lemma castSchema_mapping :
    castSchema context child check s (.mapping es) path active = (do
      match ← dispatch child context.registry s (.mapping es) path active with
      | some result => return result
      | none => castComposed context child check s (.mapping es) path active) :=
  rfl

/-- **A tag selects**: where a discriminator finds a tag of a schema that is not open, a cast makes
what this schema makes. -/
lemma castSchema_tagged (hs : s.discriminator = some d)
    (htag : es.get? (.str d.propertyName) = some tag) (htarget : d.target? tag = some target)
    (hopen : target ∉ active)
    (h : (castSchema context child check s (.mapping es) path active).outcome = .ok r) :
    (child (.ref target) (.mapping es) path active).outcome = .ok r := by
  have hopen' : active.contains target = false := by simpa using hopen
  rw [castSchema_mapping, bind_outcome_ok] at h
  obtain ⟨selected?, hselected, h⟩ := h
  unfold dispatch at hselected
  rw [hs] at hselected
  dsimp only at hselected
  rw [htag] at hselected
  dsimp only at hselected
  rw [htarget] at hselected
  dsimp only at hselected
  rw [hopen', if_neg Bool.false_ne_true] at hselected
  split at hselected
  next => cases hselected
  next =>
    obtain ⟨_, -, hselected⟩ := bind_outcome_ok.1 hselected
    obtain ⟨result, hresult, hselected⟩ := bind_outcome_ok.1 hselected
    obtain rfl := Except.ok.inj hselected
    obtain rfl := Except.ok.inj h
    exact hresult

/-- **A mapping is cast by a schema that the node selects**, with some depth left.

**Proof sketch.** Induction on the depth, along references and tags. -/
lemma castNode_selects {node : Node}
    (h : (castNode context depth node (.mapping es) path active).outcome = .ok r) :
    ∃ f left opened, context.registry.Selects es node f ∧ left < depth ∧
      (castComposed context (castNode context left)
        (Validation.checkNode context.registry context.limit left) f (.mapping es) path
          opened).outcome = .ok r := by
  induction depth, node using context.registry.node_induction generalizing active with
  | zero node => cases h
  | unknown depth name hget =>
    rw [castNode_unknown hget] at h
    cases h
  | named depth name s hget ih =>
    rw [castNode_named hget] at h
    obtain ⟨f, left, opened, hf, hown⟩ := ih h
    exact ⟨f, left, opened, .ref hget hf, hown⟩
  | link depth name other hget ih =>
    rw [castNode_link hget] at h
    obtain ⟨f, left, opened, hf, hleft, hown⟩ := ih h
    exact ⟨f, left, opened, .ref hget hf, Nat.lt_succ_of_lt hleft, hown⟩
  | schema depth s ih =>
    rw [castNode_schema, castSchema_mapping, bind_outcome_ok] at h
    obtain ⟨selected?, hselected, h⟩ := h
    cases selected? with
    | none => exact ⟨s, depth, active, .here s, depth.lt_succ_self, h⟩
    | some result =>
      obtain rfl := Except.ok.inj h
      obtain ⟨d, es', tag, target, hd, hes, htag, htarget, -, -, hcast⟩ :=
        dispatch_outcome_ok hselected
      obtain rfl := Value.mapping.inj hes
      obtain ⟨f, left, opened, hf, hleft, hown⟩ := ih (.ref target) hcast
      exact ⟨f, left, opened, .tag hd htag htarget hf, Nat.lt_succ_of_lt hleft, hown⟩

/-- What is an object stays one. -/
lemma isKept_isObject : IsKept fun v r => v.isObject = true → r.isObject = true where
  refl _ hv := hv
  trans huv hvw hu := hvw (huv hu)
  scalar {v _} hv _ hobject := by cases v <;> simp_all [Value.isScalar, Value.isObject]
  items {v _ _} hitems _ _ hobject := by cases v <;> simp_all [Value.items?, Value.isObject]
  entries _ _ _ := rfl
  merge _ _ _ := rfl

/-- **What a schema makes of a mapping conforms to the schemas that it includes**, if no records are
built. -/
lemma included_conforms (hrecords : context.registry.BuildsNoRecords (.schema s))
    (h : (castComposed context (castNode context depth)
      (Validation.checkNode context.registry context.limit depth) s (.mapping es) path
        active).outcome = .ok r) (ht : context.registry.Includes s t) :
    Validation.checkNode context.registry context.limit depth (.schema t) r path = .ok [] := by
  obtain ⟨c, hc, hreach⟩ := ht
  have hobject : r.isObject = true :=
    castComposed_kept isKept_isObject (fun c hc v path r => castNode_kept isKept_isObject
      (hrecords.below hc)) (hrecords s (.here s)) h rfl
  have hnull := Value.isNull_of_isObject hobject
  obtain ⟨own, all, result, -, -, -, hwhole, hmaterial⟩ := castComposed_outcome_ok.1 h
  obtain rfl := materialize_outcome_ok (hrecords s (.here s)) hmaterial
  have hcomposed : s.isComposed = true := by
    rw [Keywords.isComposed, List.isEmpty_eq_false_iff.2 (List.ne_nil_of_mem hc)]
    rfl
  rw [requireWhole_eq, hcomposed, if_pos rfl, bind_outcome_ok] at hwhole
  obtain ⟨_, hwhole, -⟩ := hwhole
  cases depth with
  | zero => cases require_outcome_ok.1 hwhole
  | succ depth =>
    have hconforms : Validation.checkSchema
        (Validation.checkNode context.registry context.limit depth) s.withoutAlternatives r path =
          .ok [] :=
      require_outcome_ok.1 hwhole
    have hmember := Validation.member_conforms hnull hconforms hc
    exact Validation.checkNode_mono depth.le_succ (Validation.reached_conforms hnull hreach hmember)

end Casting

/-- A value is checked against a node as against the schema that it stands for. -/
lemma Validation.validate_resolved {registry : Registry} {node : Node} {s : Schema}
    {name? : Option String} (hnode : registry.resolve? node = some (.schema s, name?)) (v : Value)
    (limit : Int) : validate registry node v limit = validate registry (.schema s) v limit := by
  unfold validate
  cases limit.toNat with
  | zero => rfl
  | succ depth => exact checkNode_resolved hnode depth v []

/-- **Selected schemas keep the contract of those that they include.** Let a schema with a
discriminator be cast, inline or by name, where no records are built. If the object has a tag that
selects another than that name, then the result is what the selected schema makes of the object, by
its own shape or by what it selects in turn. The result conforms to all that this last schema
includes as members, at any remove, and so to the schema that is cast, if that one is among them.

**Proof sketch.** `Casting.castSchema_tagged` for the step from the one schema to the other,
`Casting.castNode_selects` for those after it. A composed value is checked as a whole, and that
check descends into members. -/
theorem selected_conforms (context : CastContext) {node : Node} {s : Schema} {name? : Option String}
    (hnode : context.registry.resolve? node = some (.schema s, name?)) {d : Discriminator}
    (hs : s.discriminator = some d) {es : Entries} {tag : Value}
    (htag : es.get? (.str d.propertyName) = some tag) {target : String}
    (htarget : d.target? tag = some target) (hopen : name? ≠ some target)
    (hrecords : context.registry.BuildsNoRecords node) {r : Value}
    (h : (cast context node (.mapping es)).outcome = .ok (.ok r)) :
    (Casting.castNode context (context.limit.toNat - 1) (.ref target) (.mapping es) []
        name?.toList).outcome = .ok r ∧
      ∃ f, context.registry.Selects es (.ref target) f ∧
        (∀ t, context.registry.Includes f t →
          validate context.registry (.schema t) r context.limit = .ok []) ∧
        (context.registry.Includes f s →
          validate context.registry node r context.limit = .ok []) := by
  have hcast := cast_outcome_ok.1 h
  obtain ⟨depth, hdepth⟩ : ∃ depth, context.limit.toNat = depth + 1 := by
    refine Nat.exists_eq_succ_of_ne_zero fun hzero => ?_
    rw [hzero] at hcast
    cases hcast
  rw [hdepth, Casting.castNode_resolved hnode, List.append_nil] at hcast
  have hopen' : target ∉ name?.toList := fun hmem => hopen (Option.mem_toList.1 hmem)
  have hselected := Casting.castSchema_tagged hs htag htarget hopen' hcast
  obtain ⟨f, left, opened, hf, hleft, hown⟩ := Casting.castNode_selects hselected
  have hbelow : context.registry.BuildsNoRecords (.ref target) := by
    refine Registry.BuildsNoRecords.selected (s := s) ?_ (by rw [hs]; rfl) hf.isSome
    cases node with
    | schema t =>
      cases hnode
      exact hrecords
    | ref name =>
      obtain ⟨node, hget, heq⟩ := Option.map_eq_some_iff.1 hnode
      cases heq
      exact hrecords.ref hget
  have hconforms : ∀ t, context.registry.Includes f t →
      validate context.registry (.schema t) r context.limit = .ok [] := fun t ht => by
    refine Validation.checkNode_mono ?_
      (Casting.included_conforms (hf.buildsNoRecords hbelow) hown ht)
    omega
  rw [hdepth, Nat.add_sub_cancel]
  refine ⟨hselected, f, hf, hconforms, fun hincludes => ?_⟩
  rw [Validation.validate_resolved hnode]
  exact hconforms s hincludes

/-- A vehicle, which is of the kind that it names, and has wheels. -/
def vehicle : Schema where
  type := some .object
  properties := some [("kind", .schema { type := some .string }),
    ("wheels", .schema { type := some .integer })]
  required := [.str "wheels"]
  discriminator := some ⟨"kind", [("truck", "Truck"), ("sledge", "Sledge")]⟩

/-- A vehicle with an engine. -/
def motorised : Schema where
  properties := some [("engine", .schema { type := some .string })]
  allOf := some [.ref "Vehicle"]

/-- A truck, which is a vehicle with an engine. -/
def truck : Schema where
  allOf := some [.ref "Motorised"]

/-- A sledge, which does not say that it is a vehicle. -/
def sledge : Schema where
  type := some .object
  additional := .flag true

/-- Vehicles by name. -/
def vehicles : Registry :=
  ⟨[("Vehicle", .schema vehicle), ("Motorised", .schema motorised), ("Truck", .schema truck),
    ("Sledge", .schema sledge)]⟩

/-- The nodes that vehicles lead to. -/
def vehicleNodes : List Node :=
  [.ref "Vehicle", .ref "Motorised", .ref "Truck", .ref "Sledge"] ++
    [vehicle, motorised, truck, sledge, { type := some .string }, { type := some .integer }].map
      .schema

/-- Vehicles lead to no schema with a record type. -/
lemma vehicles_buildsNoRecords : vehicles.BuildsNoRecords (.ref "Vehicle") := by
  refine .of_list vehicleNodes ?_ ?_ (by simp [vehicleNodes])
  · intro name hname target hget
    have hnames : name = "Vehicle" ∨ name = "Motorised" ∨ name = "Truck" ∨ name = "Sledge" := by
      simpa [vehicleNodes] using hname
    rcases hnames with rfl | rfl | rfl | rfl <;> obtain rfl := Option.some.inj hget <;>
      simp [vehicleNodes]
  · have hschemas : ∀ t ∈ ([vehicle, motorised, truck, sledge, { type := some .string },
        { type := some .integer }] : List Schema),
        vehicles.steps t ⊆ vehicleNodes ∧ t.targetType = .absent := by
      simp [Registry.steps, Keywords.children, Keywords.partNodes, Keywords.sameNodes,
        Keywords.declared, Keywords.allOfList, Keywords.anyOfList, Keywords.oneOfList,
        Additional.node?, vehicle, motorised, truck, sledge, vehicles, vehicleNodes]
    exact fun t ht => hschemas t (by simpa [vehicleNodes] using ht)

/-- A truck as written down. -/
def writtenTruck : Entries :=
  [(.str "wheels", .str "6"), (.str "kind", .str "truck"), (.str "engine", .str "diesel")]

/-- The truck as it is read. -/
def readTruck : Value :=
  .mapping [(.str "engine", .str "diesel"), (.str "kind", .str "truck"), (.str "wheels", .int 6)]

/-- A truck is read as the vehicle that it includes, at one remove. -/
theorem truck_conforms :
    vehicles.resolve? (.ref "Vehicle") = some (.schema vehicle, some "Vehicle") ∧
      vehicle.discriminator = some ⟨"kind", [("truck", "Truck"), ("sledge", "Sledge")]⟩ ∧
      writtenTruck.get? (.str "kind") = some (.str "truck") ∧
      Discriminator.target? ⟨"kind", [("truck", "Truck"), ("sledge", "Sledge")]⟩ (.str "truck") =
        some "Truck" ∧
      some "Vehicle" ≠ some "Truck" ∧ vehicles.BuildsNoRecords (.ref "Vehicle") ∧
      (cast ⟨vehicles, .generic, 9⟩ (.ref "Vehicle") (.mapping writtenTruck)).outcome =
        .ok (.ok readTruck) ∧
      vehicles.Includes truck vehicle ∧
      validate vehicles (.ref "Vehicle") readTruck 9 = .ok [] := by
  have hcast : (cast ⟨vehicles, .generic, 9⟩ (.ref "Vehicle") (.mapping writtenTruck)).outcome =
      .ok (.ok readTruck) := by
    cbv
  have hnode : vehicles.resolve? (.ref "Vehicle") = some (.schema vehicle, some "Vehicle") := rfl
  have htag : writtenTruck.get? (.str "kind") = some (.str "truck") := rfl
  have hother : some "Vehicle" ≠ some "Truck" := by decide
  have hvehicle : vehicles.Reaches Keywords.allOfList (.ref "Vehicle") vehicle :=
    .ref rfl (.here vehicle)
  have hmotorised : .ref "Vehicle" ∈ motorised.allOfList := List.mem_singleton_self _
  have hincludes : vehicles.Includes truck vehicle :=
    ⟨.ref "Motorised", List.mem_singleton_self _, .ref rfl (.child hmotorised hvehicle)⟩
  obtain ⟨-, f, hf, -, hvalid⟩ :=
    selected_conforms ⟨vehicles, .generic, 9⟩ hnode rfl htag rfl hother
    vehicles_buildsNoRecords hcast
  have htruck : f = truck := by
    cases hf with
    | ref hget hf =>
      obtain rfl := Option.some.inj hget
      cases hf with
      | here => rfl
      | tag hd => cases hd
  subst htruck
  exact ⟨hnode, rfl, htag, rfl, hother, vehicles_buildsNoRecords, hcast, hincludes,
    hvalid hincludes⟩

/-- What is of a kind that does not include vehicles may be no vehicle: its wheels need not be
there, nor be a number. -/
theorem sledge_no_vehicle :
    vehicle.discriminator.isSome = true ∧ vehicles.BuildsNoRecords (.ref "Vehicle") ∧
      (cast ⟨vehicles, .generic, 9⟩ (.schema vehicle)
        (.mapping [(.str "kind", .str "sledge")])).outcome =
          .ok (.ok (.mapping [(.str "kind", .str "sledge")])) ∧
      (validate vehicles (.schema vehicle) (.mapping [(.str "kind", .str "sledge")]) 9).map
        (List.map Issue.kind) = .ok [.missingRequiredProperty] ∧
      (cast ⟨vehicles, .generic, 9⟩ (.schema vehicle)
        (.mapping [(.str "kind", .str "sledge"), (.str "wheels", .str "0")])).outcome =
          .ok (.ok (.mapping [(.str "kind", .str "sledge"), (.str "wheels", .str "0")])) ∧
      (validate vehicles (.schema vehicle)
        (.mapping [(.str "kind", .str "sledge"), (.str "wheels", .str "0")]) 9).map
          (List.map Issue.kind) = .ok [.wrongType] :=
  ⟨rfl, vehicles_buildsNoRecords, by cbv, by cbv, by cbv, by cbv⟩

end DataSchema
