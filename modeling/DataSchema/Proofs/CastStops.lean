import DataSchema.Proofs.CastFailures
import DataSchema.Proofs.CastRelations
import DataSchema.Proofs.CastSteps
import DataSchema.Proofs.CheckStops

set_option autoImplicit false

/-!
# What stops a cast

A cast stops where a check on its way does, and where a timestamp that it converts names an instant
off the calendar; every other failure of a conversion is an issue. So over well-typed schemas
nothing but the depth guard stops a check or a cast, except at a value that escapes one of the
schemas.

## Main definitions

* `DataSchema.Casting.CastStopsOnly` — casts that stop for given reasons at most.
* `DataSchema.Casting.StopsFor` — the failures of such casts.

## Main results

* `DataSchema.Casting.castSchema_stopsOnly` — casts by a schema.
* `DataSchema.Casting.castNode_stopsOnly` — casts by nodes, at every depth.
* `DataSchema.stops_iff_escapes` — what stops checks and casts of whole values.
-/

namespace DataSchema

namespace Casting

open Keywords

variable {P : Fault → Prop} {α β : Type}

/-- A cast stops, if at all, for one of the given reasons. -/
def CastStopsOnly (P : Fault → Prop) (x : Casts α) : Prop :=
  ∀ f, x.outcome = .error (.fault f) → P f

/-- Failures that stop a cast for given reasons at most. -/
def StopsFor (P : Fault → Prop) : CastFailure → Prop
  | .issues _ => True
  | .fault f => P f

/-- A cast stops for given reasons at most when it fails in ways that stop it for these. -/
lemma castStopsOnly_iff {x : Casts α} : CastStopsOnly P x ↔ FailsOnly (StopsFor P) x := by
  constructor
  · rintro h (is | f) he
    · trivial
    · exact h f he
  · exact fun h f hf => h _ hf

namespace CastStopsOnly

/-- A result stops nowhere. -/
lemma pure (a : α) : CastStopsOnly P (Pure.pure a : Casts α) := castStopsOnly_iff.2 (.pure a)

/-- A cast that fails with an issue stops nowhere. -/
lemma fail (kind : IssueKind) (message : String) (path : Path) :
    CastStopsOnly P (Casting.fail kind message path : Casts α) := castStopsOnly_iff.2 (.fail trivial)

/-- A cast that stops does so for its reason. -/
lemma stop {f : Fault} (hf : P f) : CastStopsOnly P (Casting.stop f : Casts α) :=
  castStopsOnly_iff.2 (.stop hf)

/-- Casts in a row stop where one of them does. -/
lemma bind {x : Casts α} {g : α → Casts β} (hx : CastStopsOnly P x)
    (hg : ∀ a, CastStopsOnly P (g a)) : CastStopsOnly P (x >>= g) :=
  castStopsOnly_iff.2 ((castStopsOnly_iff.1 hx).bind fun a => castStopsOnly_iff.1 (hg a))

/-- A check stops as a cast where it does. -/
lemma guarded {x : Except Fault α} (hx : StopsOnly P x) : CastStopsOnly P (guarded x) :=
  castStopsOnly_iff.2 (.guarded hx)

/-- A requirement stops where its check does. -/
lemma require {check : Check} (hcheck : StopsOnly P check) : CastStopsOnly P (require check) :=
  castStopsOnly_iff.2 (.require hcheck fun _ _ _ => trivial)

end CastStopsOnly

variable {s : Schema}

/-! ## What no other node is asked about -/

/-- A conversion by the schema stops at a timestamp off the calendar. -/
lemma castScalar_stopsOnly (hP : ∀ w f, s.Escapes w f → P f) (v : Value) (path : Path) :
    CastStopsOnly P (castScalar s v path) := by
  cases castScalar_conversion s v with
  | result r _ heq =>
    rw [heq]
    exact .pure r
  | issue kind message heq =>
    rw [heq]
    exact .fail kind message path
  | offCalendar text _ hformat hparse heq =>
    rw [heq]
    exact .stop (hP _ _ (.timestamp hformat hparse))

/-- Names that are texts are looked up, and those that are missing are among them. -/
lemma missingNames_eq_ok (data : Entries) {names : List Value}
    (hnames : ∀ n ∈ names, ∃ name, n = .str name) :
    ∃ missing, missingNames data names = .ok missing ∧ ∀ n ∈ missing, n.str?.isSome = true := by
  induction names with
  | nil => exact ⟨[], rfl, by simp⟩
  | cons n names ih =>
    obtain ⟨missing, hmissing, htexts⟩ := ih fun m hm => hnames m (List.mem_cons_of_mem n hm)
    obtain ⟨name, rfl⟩ := hnames n List.mem_cons_self
    rw [missingNames, if_neg (by simp [Value.isKey, Value.keyObstacle?]), hmissing]
    cases data.has (.str name) with
    | true => exact ⟨missing, rfl, htexts⟩
    | false => exact ⟨.str name :: missing, rfl, List.forall_mem_cons.2 ⟨rfl, htexts⟩⟩

/-- Required names that are texts are looked up without a stop. -/
lemma requireNames_stopsOnly (hs : s.WellTyped) (data : Entries) (path : Path) :
    CastStopsOnly P (requireNames s data path) := by
  obtain ⟨missing, hmissing, htexts⟩ := missingNames_eq_ok data hs.required
  unfold requireNames
  rw [hmissing]
  intro f hf
  rcases bind_outcome_error.1 hf with hf | ⟨names, hnames, hf⟩
  · cases hf
  · obtain rfl := Except.ok.inj hnames
    rw [List.all_eq_true.2 htexts] at hf
    split at hf <;> cases hf

/-- The record type that a text names is looked up without a stop. -/
lemma targetType_stopsOnly (hs : s.WellTyped) (types : TypeMap) (path : Path) :
    CastStopsOnly P (targetType types s path) := by
  unfold targetType
  split
  next => exact .pure _
  next => exact .pure _
  next tag htag =>
    obtain ⟨name, rfl⟩ := hs.targetType tag htag
    rw [if_neg (by simp [Value.isKey, Value.keyObstacle?])]
    split
    · exact .pure _
    · exact .fail _ _ _

/-- A record is built without a stop where its type is found without one. -/
lemma materialize_stopsOnly {types : TypeMap} {path : Path}
    (h : CastStopsOnly P (targetType types s path)) (v : Value) :
    CastStopsOnly P (materialize types s v path) := by
  unfold materialize
  refine h.bind fun target? => ?_
  split
  · split
    · exact .pure _
    · exact .fail _ _ _
  · exact .pure _

/-- What a schema makes of a value without another node stops casts for given reasons at most. -/
structure OwnCastStopsOnly (P : Fault → Prop) (s : Schema) : Prop
    extends Validation.OwnStopsOnly P s where
  /-- The conversion. -/
  conversion : ∀ v path, CastStopsOnly P (castScalar s v path)
  /-- The required names. -/
  names : ∀ data path, CastStopsOnly P (requireNames s data path)
  /-- The record. -/
  record : ∀ types v path, CastStopsOnly P (materialize types s v path)

/-- What a well-typed schema makes of a value stops where the value escapes. -/
lemma ownCastStopsOnly_of_wellTyped (hs : s.WellTyped) (hP : ∀ w f, s.Escapes w f → P f) :
    OwnCastStopsOnly P s where
  toOwnStopsOnly := Validation.ownStopsOnly_of_wellTyped hs hP
  conversion := castScalar_stopsOnly hP
  names := requireNames_stopsOnly hs
  record types v path := materialize_stopsOnly (targetType_stopsOnly hs types path) v

/-- Properties that must not be there stop no cast. -/
lemma refuseExtra_stopsOnly (s : Schema) (extra : Entries) (path : Path) :
    CastStopsOnly P (refuseExtra s extra path) := by
  intro f hf
  unfold refuseExtra at hf
  split at hf <;> cases hf

/-! ## Schemas and nodes -/

/-- What stops casts for given reasons may be a failure anywhere. -/
lemma isLocal_stopsFor : IsLocal fun _ => StopsFor P := ⟨fun _ _ _ => trivial, fun _ _ _ he => he⟩

/-- A schema that stops casts for given reasons at most fails in ways that do. -/
lemma OwnCastStopsOnly.failsOnly (hs : OwnCastStopsOnly P s) :
    OwnFailsOnly (fun _ => StopsFor P) s where
  conversion v path := castStopsOnly_iff.1 (hs.conversion v path)
  scalar v path := castStopsOnly_iff.1 (.require ((hs.scalar v path).bind fun _ => .ok _))
  names data path := castStopsOnly_iff.1 (hs.names data path)
  extra extra path := castStopsOnly_iff.1 (refuseExtra_stopsOnly s extra path)
  below keyword hkeyword n _ := hs.below keyword hkeyword n
  above keyword hkeyword n _ := hs.above keyword hkeyword n
  record types v path := castStopsOnly_iff.1 (hs.record types v path)

/-- **The cast by a schema stops** where what it makes of the value without another node does, where
a cast or a check by a node below stops, or where the selected schema does. -/
lemma castSchema_stopsOnly {child : NodeCaster} {check : NodeChecker} {v : Value}
    {active : List String} (hs : OwnCastStopsOnly P s) {R : Value → Value → Prop} (hR : IsKept R)
    (hkept : ∀ c ∈ s.children, ∀ w path r, (child c w path active).outcome = .ok r → R w r)
    (hsame : ∀ c ∈ s.sameNodes, ∀ w, R v w → ∀ path, CastStopsOnly P (child c w path active))
    (hcheck : ∀ c ∈ s.sameNodes, ∀ w, R v w → ∀ path, StopsOnly P (check c w path))
    (context : CastContext)
    (hpart : ∀ c ∈ s.partNodes, ∀ w, v.HasPart w → ∀ path, CastStopsOnly P (child c w path active))
    {path : Path}
    (hwhole : ∀ w, R v w → StopsOnly P (check (.schema s.withoutAlternatives) w path))
    (hselected : s.discriminator.isSome → ∀ target, (context.registry.get? target).isSome →
      target ∉ active → CastStopsOnly P (child (.ref target) v path active)) :
    CastStopsOnly P (castSchema context child check s v path active) := by
  refine castStopsOnly_iff.2 (castSchema_failsOnly isLocal_stopsFor hs.failsOnly hR hkept
    (fun c hc w hw path => ?_) hcheck context (fun c hc w hw path => ?_) (fun w hw => ?_) ?_)
  · exact castStopsOnly_iff.1 (hsame c hc w hw path)
  · exact castStopsOnly_iff.1 (hpart c hc w hw path)
  · exact castStopsOnly_iff.1 (.require (hwhole w hw))
  · exact fun hsome target hbound htarget =>
      castStopsOnly_iff.1 (hselected hsome target hbound htarget)

/-- **Casts stop at the depth guard or where something escapes**, at every depth.

**Proof sketch.** Induction on the depth. Nodes below a schema and schemas that it selects are led
to by it, and a schema without its alternatives leads nowhere that the schema does not. -/
theorem castNode_stopsOnly (context : CastContext) (depth : Nat) {node : Node}
    (hnode : Validation.Guarded context.registry P node) (v : Value) (path : Path)
    (active : List String) : CastStopsOnly P (castNode context depth node v path active) := by
  induction depth, node using context.registry.node_induction generalizing v path active with
  | zero node => exact .stop (hnode.tooDeep _ rfl)
  | unknown depth name hget =>
    rw [castNode_unknown hget]
    exact .fail _ _ _
  | named depth name s hget ih =>
    rw [castNode_named hget]
    exact ih (hnode.ref hget) v path _
  | link depth name other hget ih =>
    rw [castNode_link hget]
    exact ih (hnode.ref hget) v path _
  | schema depth s ih =>
    have hown := ownCastStopsOnly_of_wellTyped (hnode.wellTyped s (.here s))
      (hnode.escapes s (.here s))
    have hcheck : ∀ {node : Node}, Validation.Guarded context.registry P node → ∀ w path,
        StopsOnly P (Validation.checkNode context.registry context.limit depth node w path) :=
      fun h w path => Validation.checkNode_stopsOnly _ _ depth h w path
    refine castSchema_stopsOnly hown isKept_true (fun _ _ _ _ _ _ => trivial) ?_ ?_ context
      ?_ ?_ ?_
    · exact fun c hc w _ path => ih c (hnode.below (mem_children_of_same hc)) w path active
    · exact fun c hc w _ path => hcheck (hnode.below (mem_children_of_same hc)) w path
    · exact fun c hc w _ path => ih c (hnode.below (mem_children_of_part hc)) w path active
    · exact fun w _ => hcheck hnode.withoutAlternatives w path
    · exact fun hsome target htarget _ =>
        ih (.ref target) (hnode.selected hsome htarget) v path active

end Casting

open Keywords

/-- A day in a list of days. -/
def day : Schema where
  type := some .string
  format := .str "date"

/-- A list of days, of which each has the rest behind it. -/
def days : Schema where
  type := some .object
  properties := some [("day", .schema day), ("rest", .ref "Days")]
  required := [.str "day"]
  minProperties := .int 1

/-- The schemas of lists of days. -/
def calendar : Registry := ⟨[("Days", .schema days)]⟩

/-- A list of days leads to lists of days and to days. -/
lemma eq_of_reaches_days {s : Schema} (h : calendar.Reaches calendar.steps (.ref "Days") s) :
    s = days ∨ s = day := by
  have hclosed : Node.schema s = .ref "Days" ∨ Node.schema s = .schema days ∨
      Node.schema s = .schema day := by
    refine h.of_closed (Q := fun node => node = .ref "Days" ∨ node = .schema days ∨
      node = .schema day) ?_ ?_ (.inl rfl)
    · rintro name target (hname | hname | hname) hget
      · obtain rfl := Node.ref.inj hname
        exact .inr (.inl (Option.some.inj hget).symm)
      · cases hname
      · cases hname
    · rintro t c (ht | ht | ht) hc
      · cases ht
      · obtain rfl := Node.schema.inj ht
        have hmem : c ∈ [Node.schema day, .ref "Days"] := hc
        simp only [List.mem_cons, List.not_mem_nil, or_false] at hmem
        exact hmem.elim (fun h => .inr (.inr h)) .inl
      · obtain rfl := Node.schema.inj ht
        have hmem : c ∈ ([] : List Node) := hc
        cases hmem
  rcases hclosed with h | h | h
  · cases h
  · exact .inl (Node.schema.inj h)
  · exact .inr (Node.schema.inj h)

end DataSchema
