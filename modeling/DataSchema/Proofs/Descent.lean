import DataSchema.Proofs.CastSteps
import DataSchema.Proofs.NodeSteps
import DataSchema.Proofs.Reachability

set_option autoImplicit false

/-!
# Descent along nodes

Checks and casts go from a node to the schema that it stands for, and from there to the nodes below.
A name of a schema stands for the schema at the same depth, and a name of a name for that name one
step down. Where no other schema is selected, what holds of every cast by a reachable schema, given
that it holds of the casts by the nodes below, holds of every cast by the node.

## Main results

* `DataSchema.Casting.castSchema_outcome_ok` — casts by schemas that select no other.
* `DataSchema.Casting.castNode_induction` — induction along a cast.
* `DataSchema.Validation.checkNode_resolves`, `DataSchema.Casting.castNode_resolves_alike`,
  `DataSchema.Casting.resolved_of_checkNode` — checks and casts by the schema that a node stands
  for.
-/

namespace DataSchema

namespace Validation

variable {registry : Registry} {limit : Int}

/-- A node that stands for a schema, itself or by one name, checks by it. -/
lemma checkNode_resolved {node : Node} {s : Schema} {name? : Option String}
    (hnode : registry.resolve? node = some (.schema s, name?)) (depth : Nat) (v : Value)
    (path : Path) :
    checkNode registry limit (depth + 1) node v path =
      checkSchema (checkNode registry limit depth) s v path := by
  cases node with
  | schema t =>
    cases hnode
    rfl
  | ref name =>
    obtain ⟨target, hget, heq⟩ := Option.map_eq_some_iff.1 hnode
    cases heq
    exact checkNode_named hget (depth + 1) v path

/-- A value is checked against a node as against the schema that it stands for, with some depth
left. -/
theorem checkNode_resolves {node : Node} {s : Schema} (hnode : registry.Resolves node s)
    {depth : Nat} {v : Value} {path : Path} {is : List Issue}
    (h : checkNode registry limit depth node v path = .ok is) :
    ∃ left, left < depth ∧ checkSchema (checkNode registry limit left) s v path = .ok is := by
  induction hnode generalizing depth with
  | schema s =>
    cases depth with
    | zero => cases h
    | succ depth => exact ⟨depth, depth.lt_succ_self, h⟩
  | @ref name target s hget _ ih =>
    cases depth with
    | zero => cases h
    | succ depth =>
      cases target with
      | schema t =>
        rw [checkNode_named hget] at h
        exact ih h
      | ref other =>
        rw [checkNode_link hget] at h
        obtain ⟨left, hleft, hcheck⟩ := ih h
        exact ⟨left, Nat.lt_succ_of_lt hleft, hcheck⟩

end Validation

namespace Casting

variable {context : CastContext}

/-- A schema without a discriminator selects no other. -/
lemma dispatch_eq_none {child : NodeCaster} {s : Schema} (hs : s.discriminator = none)
    (v : Value) (path : Path) (active : List String) :
    dispatch child context.registry s v path active = pure none := by
  unfold dispatch
  rw [hs]

/-- A schema that selects no other keeps null where it is allowed, refuses it where a type is asked
for, and casts all else by its keywords. -/
lemma castSchema_outcome_ok {child : NodeCaster} {check : NodeChecker} {s : Schema} {v r : Value}
    {path : Path} {active : List String} (hs : s.discriminator = none) :
    (castSchema context child check s v path active).outcome = .ok r ↔
      (v.isNull && s.nullable.isTruthy) = true ∧ r = .null ∨
        (v.isNull && s.nullable.isTruthy) = false ∧ (v.isNull && s.type.isSome) = false ∧
          (castComposed context child check s v path active).outcome = .ok r := by
  unfold castSchema
  rw [dispatch_eq_none hs, pure_bind]
  cases v.isNull && s.nullable.isTruthy with
  | true =>
    rw [if_pos rfl]
    constructor
    · exact fun h => .inl ⟨rfl, (Except.ok.inj h).symm⟩
    · rintro (⟨-, rfl⟩ | ⟨h, -⟩)
      · rfl
      · cases h
  | false =>
    rw [if_neg Bool.false_ne_true]
    cases v.isNull && s.type.isSome with
    | true =>
      rw [if_pos rfl]
      constructor
      · rintro ⟨⟩
      · rintro (⟨h, -⟩ | ⟨-, h, -⟩) <;> cases h
    | false =>
      rw [if_neg Bool.false_ne_true]
      constructor
      · exact fun h => .inr ⟨rfl, rfl, h⟩
      · rintro (⟨h, -⟩ | ⟨-, -, h⟩)
        · cases h
        · exact h

/-- **Induction along a cast**: what holds of casts by names as by what they stand for, and of a
cast by a schema if it holds of the casts by the nodes that come next, holds of every cast by a node
that leads to such schemas only. -/
theorem castNode_induction {N : Schema → List Node} {H : Schema → Prop}
    {M : Nat → Node → Value → Value → Path → Prop}
    (named : ∀ depth name s v r path, context.registry.get? name = some (.schema s) →
      M (depth + 1) (.schema s) v r path → M (depth + 1) (.ref name) v r path)
    (link : ∀ depth name other v r path, context.registry.get? name = some (.ref other) →
      M depth (.ref other) v r path → M (depth + 1) (.ref name) v r path)
    (schema : ∀ depth s v r path active, H s →
      (∀ c ∈ N s, ∀ v r path active, (castNode context depth c v path active).outcome = .ok r →
        M depth c v r path) →
      (castSchema context (castNode context depth)
        (Validation.checkNode context.registry context.limit depth) s v path active).outcome =
          .ok r →
      M (depth + 1) (.schema s) v r path)
    {depth : Nat} {node : Node} (hs : ∀ s, context.registry.Reaches N node s → H s)
    {v r : Value} {path : Path} {active : List String}
    (h : (castNode context depth node v path active).outcome = .ok r) : M depth node v r path := by
  induction depth, node using context.registry.node_induction generalizing v r path active with
  | zero node => cases h
  | unknown depth name hget =>
    rw [castNode_unknown hget] at h
    cases h
  | named depth name s hget ih =>
    rw [castNode_named hget] at h
    exact named depth name s v r path hget (ih (fun t ht => hs t (.ref hget ht)) h)
  | link depth name other hget ih =>
    rw [castNode_link hget] at h
    exact link depth name other v r path hget (ih (fun t ht => hs t (.ref hget ht)) h)
  | schema depth s ih =>
    exact schema depth s v r path active (hs s (.here s))
      (fun c hc v r path active => ih c fun t ht => hs t (.child hc ht)) h

/-- **A node that is checked stands for a schema**, and a value is checked and cast by the node as
by that schema, with some depth left, unless the node leads to a name that nothing goes by. -/
theorem resolved_of_checkNode {depth : Nat} {node : Node} {v : Value} {path : Path}
    {is : List Issue} (active : List String)
    (h : Validation.checkNode context.registry context.limit depth node v path = .ok is) :
    (is.map Issue.kind = [.schemaNotFound] ∧
        ∀ r, (castNode context depth node v path active).outcome ≠ .ok r) ∨
      ∃ s left, context.registry.Resolves node s ∧ left < depth ∧
        Validation.checkSchema (Validation.checkNode context.registry context.limit left) s v path =
          .ok is ∧
        ∃ opened, castNode context depth node v path active =
          castSchema context (castNode context left)
            (Validation.checkNode context.registry context.limit left) s v path opened := by
  induction depth, node using context.registry.node_induction generalizing active with
  | zero node => cases h
  | unknown depth name hget =>
    rw [Validation.checkNode_unknown hget] at h
    obtain rfl := Except.ok.inj h
    refine .inl ⟨rfl, fun r hr => ?_⟩
    rw [castNode_unknown hget] at hr
    cases hr
  | named depth name s hget _ =>
    rw [Validation.checkNode_named hget] at h
    exact .inr ⟨s, depth, .ref hget (.schema s), depth.lt_succ_self, h, name :: active,
      castNode_named hget (depth + 1) v path active⟩
  | link depth name other hget ih =>
    rw [Validation.checkNode_link hget] at h
    rw [castNode_link hget]
    refine (ih (name :: active) h).imp_right ?_
    rintro ⟨s, left, hs, hleft, hsame⟩
    exact ⟨s, left, .ref hget hs, Nat.lt_succ_of_lt hleft, hsame⟩
  | schema depth s _ =>
    exact .inr ⟨s, depth, .schema s, depth.lt_succ_self, h, active, rfl⟩

/-- What is cast by a node is cast by the schema that it stands for, with some depth left, and with
the same depth left every value is checked against the node as against that schema. -/
theorem castNode_resolves_alike {node : Node} {s : Schema}
    (hnode : context.registry.Resolves node s) {depth : Nat} {v r : Value} {path : Path}
    {active : List String} (h : (castNode context depth node v path active).outcome = .ok r) :
    ∃ left opened, left < depth ∧
      (castSchema context (castNode context left)
        (Validation.checkNode context.registry context.limit left) s v path opened).outcome =
          .ok r ∧
      ∀ w path, Validation.checkNode context.registry context.limit depth node w path =
        Validation.checkSchema (Validation.checkNode context.registry context.limit left) s w
          path := by
  induction hnode generalizing depth active with
  | schema s =>
    cases depth with
    | zero => cases h
    | succ depth => exact ⟨depth, active, depth.lt_succ_self, h, fun _ _ => rfl⟩
  | @ref name target s hget _ ih =>
    cases depth with
    | zero => cases h
    | succ depth =>
      cases target with
      | schema t =>
        rw [castNode_named hget] at h
        obtain ⟨left, opened, hleft, hcast, hcheck⟩ := ih h
        refine ⟨left, opened, hleft, hcast, fun w path => ?_⟩
        rw [Validation.checkNode_named hget, hcheck]
      | ref other =>
        rw [castNode_link hget] at h
        obtain ⟨left, opened, hleft, hcast, hcheck⟩ := ih h
        refine ⟨left, opened, Nat.lt_succ_of_lt hleft, hcast, fun w path => ?_⟩
        rw [Validation.checkNode_link hget, hcheck]

/-- What is cast by a node is cast by the schema that it stands for, with some depth left. -/
theorem castNode_resolves {node : Node} {s : Schema} (hnode : context.registry.Resolves node s)
    {depth : Nat} {v r : Value} {path : Path} {active : List String}
    (h : (castNode context depth node v path active).outcome = .ok r) :
    ∃ left opened, left < depth ∧ (castSchema context (castNode context left)
      (Validation.checkNode context.registry context.limit left) s v path opened).outcome =
        .ok r := by
  obtain ⟨left, opened, hleft, hcast, -⟩ := castNode_resolves_alike hnode h
  exact ⟨left, opened, hleft, hcast⟩

end Casting

end DataSchema
