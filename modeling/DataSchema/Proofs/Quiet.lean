import DataSchema.Proofs.Keeping
import DataSchema.Proofs.IssueKinds

set_option autoImplicit false

/-!
# Checks that find nothing

A check finds nothing in a value if no run of it, wherever the value stands, ends with issues. That
leaves the runs that stop, so more depth can only make it harder. It holds of values that conform,
of values like these, and of what sound nodes make of any value.

## Main definitions

* `DataSchema.Validation.FindsNothing` — checks that find nothing.
* `DataSchema.Registry.IsSound` — nodes whose results conform to them, whatever the value.
* `DataSchema.Registry.Stands` — nodes that are a schema or refer to one.

## Main results

* `DataSchema.Validation.FindsNothing.of_meets` — a check finds nothing if the keywords are met as
  far as the nodes below find nothing.
* `DataSchema.Registry.IsSound.findsNothing`, `DataSchema.Registry.Keeps.findsNothing` — what is
  made of a value that conforms.
-/

namespace DataSchema

/-! ## Nodes that stand for a schema -/

/-- A node stands for a schema: it is the schema, or it refers to it. -/
inductive Registry.Stands (registry : Registry) : Node → Schema → Prop
  /-- A schema stands for itself. -/
  | schema (s : Schema) : Registry.Stands registry (.schema s) s
  /-- A reference stands for its target. -/
  | ref {name : String} {s : Schema} : registry.get? name = some (.schema s) →
    Registry.Stands registry (.ref name) s

namespace Registry.Stands

variable {registry : Registry} {node : Node} {s t : Schema}

/-- A node stands for one schema only. -/
lemma unique (hs : registry.Stands node s) (ht : registry.Stands node t) : s = t := by
  cases hs with
  | schema _ =>
    cases ht with
    | schema _ => rfl
  | ref hget =>
    cases ht with
    | ref hget' =>
      rw [hget] at hget'
      exact Node.schema.inj (Option.some.inj hget')

/-- A node leads to the schema that it stands for, and on to where that leads. -/
lemma reaches {next : Schema → List Node} (hs : registry.Stands node s)
    (ht : registry.Reaches next (.schema s) t) : registry.Reaches next node t := by
  cases hs with
  | schema _ => exact ht
  | ref hget => exact .ref hget ht

/-- To conform to a node is to conform to the schema that it stands for. -/
lemma conforms (hs : registry.Stands node s) (depth : Nat) (v : Value) :
    DataSchema.conforms registry (depth + 1) node v =
      Conformance.meetsSchema (DataSchema.conforms registry depth) s v := by
  cases hs with
  | schema _ => rfl
  | ref hget => rw [DataSchema.conforms, hget]

/-- A node is checked by the schema that it stands for. -/
lemma checkNode (hs : registry.Stands node s) (limit : Int) (depth : Nat) (v : Value)
    (path : Path) : Validation.checkNode registry limit (depth + 1) node v path =
      Validation.checkSchema (Validation.checkNode registry limit depth) s v path := by
  cases hs with
  | schema _ => rfl
  | ref hget => rw [Validation.checkNode_named hget]; rfl

/-- A node casts by the schema that it stands for. -/
lemma castNode {context : CastContext} (hs : context.registry.Stands node s) (depth : Nat)
    (v : Value) (path : Path) (active : List String) :
    ∃ active', Casting.castNode context (depth + 1) node v path active =
      Casting.castSchema context (Casting.castNode context depth)
        (Validation.checkNode context.registry context.limit depth) s v path active' := by
  cases hs with
  | schema _ => exact ⟨active, rfl⟩
  | ref hget => exact ⟨_, Casting.castNode_named hget (depth + 1) v path active⟩

end Registry.Stands

namespace Validation

open Conformance

/-! ## Checks -/

/-- A check finds nothing in a value: no run of it ends with issues. -/
def FindsNothing (registry : Registry) (limit : Int) (depth : Nat) (node : Node) (v : Value) :
    Prop :=
  ∀ path is, checkNode registry limit depth node v path = .ok is → is = []

namespace FindsNothing

variable {registry : Registry} {limit : Int} {depth depth' : Nat} {node : Node} {v : Value}

/-- A check that finds nothing at one place finds nothing. -/
lemma of_path (path : Path)
    (h : ∀ is, checkNode registry limit depth node v path = .ok is → is = []) :
    FindsNothing registry limit depth node v := by
  intro path' is his
  have hsame := checkNode_deeper registry limit limit path' path (Nat.le_refl depth) node v path'
    path ⟨[], by simp, by simp⟩
  obtain ⟨js, hjs, hij⟩ := hsame.eq_ok his
  rw [h js hjs] at hij
  exact List.forall₂_nil_right_iff.1 hij

/-- A check with less depth finds no more. -/
lemma mono (h : FindsNothing registry limit depth node v) (hdepth : depth' ≤ depth) :
    FindsNothing registry limit depth' node v :=
  fun path is his => h path is (checkNode_mono hdepth his)

/-- A check finds nothing in what conforms. -/
lemma of_conforms (h : DataSchema.conforms registry depth node v = true) :
    FindsNothing registry limit depth node v :=
  fun path is his => (checkNode_eq_nil registry limit depth node v path is his).2 h

/-- What a check finds nothing in can be put as a test of values. -/
lemma exists_decides (registry : Registry) (limit : Int) (depth : Nat) :
    ∃ test, Decides (checkNode registry limit depth) test ∧
      ∀ node v, FindsNothing registry limit depth node v → test node v = true := by
  classical
  refine ⟨fun node v => decide (FindsNothing registry limit depth node v), ?_, ?_⟩
  · intro node v path is his
    rw [decide_eq_true_iff]
    refine ⟨fun hnil => .of_conforms ?_, fun h => h path is his⟩
    exact (checkNode_eq_nil registry limit depth node v path is his).1 hnil
  · exact fun node v h => decide_eq_true h

/-- **A check finds nothing if the rules of the schema are met**, with any test for the nodes below
that says yes where nothing is found. -/
lemma of_meets {s : Schema} (hs : registry.Stands node s)
    (h : ∀ below test, depth = below + 1 →
      (∀ c w, FindsNothing registry limit below c w → test c w = true) →
      meetsSchema test s v = true) : FindsNothing registry limit depth node v := by
  intro path is his
  cases depth with
  | zero => cases his
  | succ below =>
    obtain ⟨test, hdecides, htest⟩ := exists_decides registry limit below
    rw [hs.checkNode] at his
    exact (checkSchema_eq_nil hdecides his).2 (h below test rfl htest)

end FindsNothing

end Validation

/-! ## Results of casts -/

open Validation Conformance

variable {T : String → Prop} {F : Binary64 → Prop} {context : CastContext} {depth depth' : Nat}
  {node : Node} {v r : Value} {path : Path} {active : List String}

/-- What a cast by a node makes of a value conforms to the node: no schema by which parts are cast
leaves anything to checks, and none asks for an exclusive choice. -/
structure Registry.IsSound (registry : Registry) (node : Node) : Prop where
  /-- Nothing is left to checks. -/
  asksAlike : ∀ s, registry.Reaches Keywords.shapeNodes node s → s.AsksAlike
  /-- There is no exclusive choice. -/
  one : ∀ s, registry.Reaches Keywords.reportingNodes node s → s.oneOfList = []

/-- **A check finds nothing in what a sound node makes.** -/
lemma Registry.IsSound.findsNothing (h : context.registry.IsSound node)
    (hr : (Casting.castNode context depth node v path active).outcome = .ok r) :
    FindsNothing context.registry context.limit depth node r := by
  refine .of_path path fun is his => ?_
  have hpass := Soundness.castNode_passes context depth h.asksAlike v r path active hr
  rw [his] at hpass
  cases hpass with
  | ok hambiguous =>
    have hnone := checkNode_unambiguous context.registry context.limit depth h.one r path
    exact List.eq_nil_iff_forall_not_mem.2 fun i hi => hnone is his i hi (hambiguous i hi)

/-- A check finds nothing in what is like a value that conforms. -/
lemma Validation.FindsNothing.of_alike {registry : Registry} {limit : Int}
    (hconflates : ∀ s, registry.Reaches Keywords.children node s → ∀ x, F x → s.Conflates x)
    (hv : v.IsJsonOf T F) (hmeets : DataSchema.conforms registry depth node v = true)
    (h : v.Alike r) : FindsNothing registry limit depth node r := by
  refine .of_conforms ?_
  rwa [← conforms_alike depth hconflates v r hv h]

/-- **A check finds nothing in what is made of a value that conforms**, where values are kept. -/
lemma Registry.Keeps.findsNothing (h : context.registry.Keeps T F node)
    (hdirect : ∀ s, context.registry.Reaches Keywords.castNodes node s → s.IsDirect)
    (hv : v.IsJsonOf T F) (hmeets : DataSchema.conforms context.registry depth node v = true)
    (hr : (Casting.castNode context depth node v path active).outcome = .ok r) :
    FindsNothing context.registry context.limit depth node r :=
  .of_alike h.conflates hv hmeets (Casting.castNode_alike hdirect h hv (.inl hmeets) hr)

end DataSchema
