import Mathlib.Logic.Basic
import DataSchema.Casting

set_option autoImplicit false

/-!
# Steps along nodes

Checks and casts go from a node to the schema that it stands for, and from there to the nodes below,
with one step less. A name of a schema stands for the schema with the same steps left, and a name of
a name for that name with one step less. So what is shown of all nodes, whatever number of steps is
left, is shown of the four kinds of nodes in turn.

## Main results

* `DataSchema.Registry.node_induction` — induction on the steps that are left, by kinds of nodes.
* `DataSchema.Validation.checkNode_unknown`, `DataSchema.Validation.checkNode_named`,
  `DataSchema.Validation.checkNode_link` — checks by names.
* `DataSchema.Casting.castNode_unknown`, `DataSchema.Casting.castNode_named`,
  `DataSchema.Casting.castNode_link` — casts by names.
-/

namespace DataSchema

/-- **Induction along nodes**: what holds of every node when no step is left, of names that nothing
goes by, of names as of what they stand for, and of a schema if it holds of all nodes with one step
less, holds of every node. -/
theorem Registry.node_induction (registry : Registry) {M : Nat → Node → Prop}
    (zero : ∀ node, M 0 node)
    (unknown : ∀ depth name, registry.get? name = none → M (depth + 1) (.ref name))
    (named : ∀ depth name s, registry.get? name = some (.schema s) →
      M (depth + 1) (.schema s) → M (depth + 1) (.ref name))
    (link : ∀ depth name other, registry.get? name = some (.ref other) →
      M depth (.ref other) → M (depth + 1) (.ref name))
    (schema : ∀ depth s, (∀ node, M depth node) → M (depth + 1) (.schema s))
    (depth : Nat) (node : Node) : M depth node := by
  induction depth generalizing node with
  | zero => exact zero node
  | succ depth ih =>
    cases node with
    | schema s => exact schema depth s ih
    | ref name =>
      cases hget : registry.get? name with
      | none => exact unknown depth name hget
      | some target =>
        cases target with
        | schema s => exact named depth name s hget (schema depth s ih)
        | ref other => exact link depth name other hget (ih (.ref other))

namespace Validation

variable {registry : Registry} {limit : Int} {name : String}

/-- A name that nothing goes by is reported. -/
lemma checkNode_unknown (h : registry.get? name = none) (depth : Nat) (v : Value) (path : Path) :
    checkNode registry limit (depth + 1) (.ref name) v path =
      .ok [⟨.schemaNotFound, Registry.notFoundMessage name, path⟩] := by
  simp only [checkNode, checkResolved, h]

/-- A value is checked against a name as against the schema of that name. -/
lemma checkNode_named {s : Schema} (h : registry.get? name = some (.schema s)) (depth : Nat)
    (v : Value) (path : Path) :
    checkNode registry limit depth (.ref name) v path =
      checkNode registry limit depth (.schema s) v path := by
  cases depth with
  | zero => rfl
  | succ depth => simp only [checkNode, checkResolved, h]

/-- A value is checked against a name of a name as against the latter, one step down. -/
lemma checkNode_link {other : String} (h : registry.get? name = some (.ref other)) (depth : Nat)
    (v : Value) (path : Path) :
    checkNode registry limit (depth + 1) (.ref name) v path =
      checkNode registry limit depth (.ref other) v path := by
  simp only [checkNode, checkResolved, h]

end Validation

namespace Casting

variable {context : CastContext} {name : String}

/-- A value is cast by a schema with one step less for the nodes below. -/
lemma castNode_schema (s : Schema) (depth : Nat) (v : Value) (path : Path) (active : List String) :
    castNode context (depth + 1) (.schema s) v path active =
      castSchema context (castNode context depth)
        (Validation.checkNode context.registry context.limit depth) s v path active := rfl

/-- A name that nothing goes by casts no value. -/
lemma castNode_unknown (h : context.registry.get? name = none) (depth : Nat) (v : Value)
    (path : Path) (active : List String) :
    castNode context (depth + 1) (.ref name) v path active =
      fail .schemaNotFound (Registry.notFoundMessage name) path := by
  simp only [castNode, castResolved, h]

/-- A value is cast by a name as by the schema of that name, with the name open. -/
lemma castNode_named {s : Schema} (h : context.registry.get? name = some (.schema s))
    (depth : Nat) (v : Value) (path : Path) (active : List String) :
    castNode context depth (.ref name) v path active =
      castNode context depth (.schema s) v path (name :: active) := by
  cases depth with
  | zero => rfl
  | succ depth => simp only [castNode, castResolved, h]

/-- A value is cast by a name of a name as by the latter, one step down and with the name open. -/
lemma castNode_link {other : String} (h : context.registry.get? name = some (.ref other))
    (depth : Nat) (v : Value) (path : Path) (active : List String) :
    castNode context (depth + 1) (.ref name) v path active =
      castNode context depth (.ref other) v path (name :: active) := by
  simp only [castNode, castResolved, h]

end Casting

end DataSchema
