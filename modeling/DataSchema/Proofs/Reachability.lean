import Mathlib.Data.List.Basic
import DataSchema.Schema.Basic

set_option autoImplicit false

/-!
# Reachable schemas

The nodes below a schema, and the schemas that are reached from a node by following references and
stepping from a schema to nodes below it. Which of those nodes count is a parameter, so that the
same notion covers the steps that keep to the value at hand and those that go into its parts.

## Main definitions

* `DataSchema.Keywords.children` — all nodes below a schema.
* `DataSchema.Keywords.partNodes` — those that apply to a part of the value.
* `DataSchema.Registry.Reaches` — the schemas that a node leads to.
* `DataSchema.Registry.Resolves` — the schema that a node stands for.

## Main results

* `DataSchema.Registry.Reaches.of_closed` — what is handed down along references and steps holds of
  all reachable schemas.
* `DataSchema.Registry.Reaches.of_steps` — fewer steps reach fewer schemas.
-/

namespace DataSchema

/-- The node that the rule for undeclared properties holds, if there is one. -/
def Additional.node? {ν : Type} : Additional ν → Option ν
  | schema node => some node
  | _ => none

/-- A rule that holds a node is that node. -/
lemma Additional.node?_eq_some {ν : Type} {a : Additional ν} {c : ν} :
    a.node? = some c ↔ a = .schema c := by
  cases a <;> simp [node?]

namespace Keywords

variable {ν : Type}

/-- The nodes that apply to a part of the value: its properties and its items. -/
def partNodes (s : Keywords ν) : List ν :=
  s.declared.map Prod.snd ++ s.additional.node?.toList ++ s.items.toList

/-- The nodes that apply to the value itself. -/
def sameNodes (s : Keywords ν) : List ν :=
  s.allOfList ++ s.anyOfList ++ s.oneOfList ++ s.notSchema.toList

/-- All nodes below a schema. -/
def children (s : Keywords ν) : List ν := s.partNodes ++ s.sameNodes

/-- A part of the value is described by a node below the schema. -/
lemma mem_children_of_part {s : Keywords ν} {c : ν} (h : c ∈ s.partNodes) : c ∈ s.children :=
  List.mem_append_left _ h

/-- The value itself is described by a node below the schema. -/
lemma mem_children_of_same {s : Keywords ν} {c : ν} (h : c ∈ s.sameNodes) : c ∈ s.children :=
  List.mem_append_right _ h

/-- The node of a declared property applies to a part of the value. -/
lemma mem_partNodes_declared {s : Keywords ν} {p : String × ν} (h : p ∈ s.declared) :
    p.2 ∈ s.partNodes := by
  have : p.2 ∈ s.declared.map Prod.snd := List.mem_map_of_mem h
  simp [partNodes, this]

/-- The node for undeclared properties applies to a part of the value. -/
lemma mem_partNodes_additional {s : Keywords ν} {c : ν} (h : s.additional = .schema c) :
    c ∈ s.partNodes := by
  simp [partNodes, h, Additional.node?]

/-- The node for items applies to a part of the value. -/
lemma mem_partNodes_items {s : Keywords ν} {c : ν} (h : s.items = some c) : c ∈ s.partNodes := by
  simp [partNodes, h]

/-- The members of a composition apply to the value itself. -/
lemma mem_sameNodes_allOf {s : Keywords ν} {c : ν} (h : c ∈ s.allOfList) : c ∈ s.sameNodes := by
  simp [sameNodes, h]

/-- Alternatives apply to the value itself. -/
lemma mem_sameNodes_anyOf {s : Keywords ν} {c : ν} (h : c ∈ s.anyOfList) : c ∈ s.sameNodes := by
  simp [sameNodes, h]

/-- Alternatives that exclude each other apply to the value itself. -/
lemma mem_sameNodes_oneOf {s : Keywords ν} {c : ν} (h : c ∈ s.oneOfList) : c ∈ s.sameNodes := by
  simp [sameNodes, h]

/-- The schema that must not match applies to the value itself. -/
lemma mem_sameNodes_not {s : Keywords ν} {c : ν} (h : s.notSchema = some c) :
    c ∈ s.sameNodes := by
  simp [sameNodes, h]

/-- The nodes below a schema without its alternatives are below the schema. -/
lemma mem_children_of_withoutAlternatives {s : Keywords ν} {c : ν}
    (h : c ∈ s.withoutAlternatives.children) : c ∈ s.children := by
  rcases List.mem_append.1 h with h | h
  · exact mem_children_of_part h
  · refine mem_children_of_same ?_
    have hsame : c ∈ s.allOfList ++ s.notSchema.toList := by
      simpa [sameNodes, withoutAlternatives, allOfList, anyOfList, oneOfList] using h
    rcases List.mem_append.1 hsame with h | h
    · exact mem_sameNodes_allOf h
    · exact mem_sameNodes_not (Option.mem_toList.1 h)

/-- A schema that is not composed has no members and no alternatives. -/
lemma isComposed_eq_false {s : Keywords ν} :
    s.isComposed = false ↔ s.allOfList = [] ∧ s.oneOfList = [] ∧ s.anyOfList = [] := by
  simp only [isComposed, hasAlternatives, Bool.or_eq_false_iff, Bool.not_eq_false',
    List.isEmpty_iff]

end Keywords

namespace Registry

/-- A node leads to a schema: it is the schema, it refers to a node that leads there, or it is a
schema with a step to a node that leads there. -/
inductive Reaches (r : Registry) (next : Schema → List Node) : Node → Schema → Prop
  /-- A schema leads to itself. -/
  | here (s : Schema) : Reaches r next (.schema s) s
  /-- A reference leads where its target does. -/
  | ref {name : String} {node : Node} {s : Schema} :
    r.get? name = some node → Reaches r next node s → Reaches r next (.ref name) s
  /-- A schema leads where a node one step further does. -/
  | child {t : Schema} {node : Node} {s : Schema} :
    node ∈ next t → Reaches r next node s → Reaches r next (.schema t) s

namespace Reaches

variable {r : Registry} {next : Schema → List Node}

/-- What holds of a node, and is handed down along references and steps, holds of all schemas that
the node leads to. -/
lemma of_closed {Q : Node → Prop} {node : Node} {s : Schema} (h : r.Reaches next node s)
    (href : ∀ name target, Q (.ref name) → r.get? name = some target → Q target)
    (hchild : ∀ t c, Q (.schema t) → c ∈ next t → Q c) (hnode : Q node) : Q (.schema s) := by
  induction h with
  | here s => exact hnode
  | ref hget _ ih => exact ih (href _ _ hnode hget)
  | child hc _ ih => exact ih (hchild _ _ hnode hc)

/-- Steps that are also steps of another kind lead no further than those. -/
lemma of_steps {next' : Schema → List Node} {node : Node} {s : Schema}
    (h : r.Reaches next node s)
    (hsteps : ∀ t, r.Reaches next' node t → ∀ c ∈ next t, c ∈ next' t) :
    r.Reaches next' node s := by
  induction h with
  | here s => exact .here s
  | ref hget _ ih => exact .ref hget (ih fun t ht => hsteps t (.ref hget ht))
  | child hc _ ih =>
    have hc' := hsteps _ (.here _) _ hc
    exact .child hc' (ih fun t ht => hsteps t (.child hc' ht))

/-- A schema without its alternatives leads to itself, and else where the schema does. -/
lemma of_withoutAlternatives {s t : Schema} (h : r.Reaches next (.schema s.withoutAlternatives) t)
    (hsteps : ∀ c ∈ next s.withoutAlternatives, c ∈ next s) :
    t = s.withoutAlternatives ∨ r.Reaches next (.schema s) t := by
  cases h with
  | here => exact .inl rfl
  | child hc h => exact .inr (.child (hsteps _ hc) h)

/-- A node leads where its reachable schemas do. -/
lemma trans {node c : Node} {t s : Schema} (ht : r.Reaches next node t) (hc : c ∈ next t)
    (hs : r.Reaches next c s) : r.Reaches next node s := by
  induction ht with
  | here s => exact .child hc hs
  | ref hget _ ih => exact .ref hget (ih hc)
  | child hmem _ ih => exact .child hmem (ih hc)

end Reaches

/-- A node stands for a schema: it is the schema, or it refers to a node that stands for it. -/
inductive Resolves (r : Registry) : Node → Schema → Prop
  /-- A schema stands for itself. -/
  | schema (s : Schema) : Resolves r (.schema s) s
  /-- A reference stands for what its target stands for. -/
  | ref {name : String} {node : Node} {s : Schema} :
    r.get? name = some node → Resolves r node s → Resolves r (.ref name) s

namespace Resolves

variable {r : Registry} {node : Node} {s t : Schema}

/-- A node stands for one schema at most. -/
lemma unique (hs : r.Resolves node s) (ht : r.Resolves node t) : s = t := by
  induction hs with
  | schema s =>
    cases ht
    rfl
  | ref hget _ ih =>
    cases ht with
    | ref hget' ht =>
      obtain rfl := Option.some.inj (hget.symm.trans hget')
      exact ih ht

/-- A node leads where the schema does that it stands for. -/
lemma reaches {next : Schema → List Node} (hs : r.Resolves node s)
    (ht : r.Reaches next (.schema s) t) : r.Reaches next node t := by
  induction hs with
  | schema s => exact ht
  | ref hget _ ih => exact .ref hget (ih ht)

end Resolves

end Registry

end DataSchema
