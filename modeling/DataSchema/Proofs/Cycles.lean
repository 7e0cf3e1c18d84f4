import Mathlib.Order.WellFoundedSet
import DataSchema.Proofs.Reachability
import DataSchema.Proofs.TextKeys

set_option autoImplicit false

/-!
# Cycles of references

A name leads in place to the names that its node mentions without going into parts of the value: as
an alias, a member of a composition, an alternative, or what must not match. Where no name leads in
place to itself, following references and compositions comes to an end, since a registry has
finitely many names and each node is finite. Recursion through properties and items, and through
discriminators, is no cycle in this sense.

## Main definitions

* `DataSchema.Node.Mentions` — the names that a node mentions in place.
* `DataSchema.Registry.IsAcyclic` — no name leads in place to itself.
* `DataSchema.Registry.Next` — one step in place.

## Main results

* `DataSchema.Registry.IsAcyclic.wellFounded_next` — steps in place come to an end.
-/

namespace DataSchema

/-- A node mentions a name in place: it is a reference to it, or a schema over a node that applies
to the value itself and mentions it. -/
inductive Node.Mentions : Node → String → Prop
  /-- A reference mentions its name. -/
  | ref (name : String) : Mentions (.ref name) name
  /-- A schema mentions what a node for the value itself mentions. -/
  | inner {s : Schema} {c : Node} {name : String} :
    c ∈ s.sameNodes → Mentions c name → Mentions (.schema s) name

/-- A node for the value itself is smaller than its schema. -/
lemma Keywords.sizeOf_lt_of_mem_sameNodes {s : Schema} {c : Node} (hc : c ∈ s.sameNodes) :
    sizeOf c < sizeOf (Node.schema s) := by
  have hlist : ∀ nodes : Option (List Node), c ∈ nodes.getD [] → sizeOf c < sizeOf nodes := by
    intro nodes hmem
    cases nodes with
    | none => cases hmem
    | some cs =>
      have hlt : sizeOf c < sizeOf cs := List.sizeOf_lt_of_mem hmem
      simp only [Option.some.sizeOf_spec]
      omega
  have hnot : ∀ node : Option Node, c ∈ node.toList → sizeOf c < sizeOf node := by
    intro node hmem
    rw [Option.mem_toList] at hmem
    obtain rfl := hmem
    simp
  have hkeyword : sizeOf c < sizeOf s.allOf ∨ sizeOf c < sizeOf s.anyOf ∨
      sizeOf c < sizeOf s.oneOf ∨ sizeOf c < sizeOf s.notSchema := by
    simp only [sameNodes, List.mem_append] at hc
    rcases hc with ((hc | hc) | hc) | hc
    · exact .inl (hlist _ hc)
    · exact .inr (.inl (hlist _ hc))
    · exact .inr (.inr (.inl (hlist _ hc)))
    · exact .inr (.inr (.inr (hnot _ hc)))
  obtain ⟨⟩ := s
  simp only [Node.schema.sizeOf_spec, Keywords.mk.sizeOf_spec]
  dsimp only at hkeyword
  omega

namespace Registry

/-- The names that a registry binds. -/
def boundNames (registry : Registry) : List String := registry.entries.map Prod.fst

/-- A name with a node is bound by the registry. -/
lemma mem_boundNames {registry : Registry} {name : String} {node : Node}
    (h : registry.get? name = some node) : name ∈ registry.boundNames :=
  List.mem_map_of_mem (f := Prod.fst) (mem_of_lookup h)

/-- A name leads in place to another: its node mentions it. -/
def LeadsTo (registry : Registry) (a b : String) : Prop :=
  ∃ node, registry.get? a = some node ∧ node.Mentions b

/-- No name leads in place to itself, over any number of steps. -/
def IsAcyclic (registry : Registry) : Prop :=
  ∀ name, ¬Relation.TransGen registry.LeadsTo name name

/-- One step in place: from a reference to its target, or from a schema to a node that applies to
the value itself. The node that is stepped to comes first. -/
inductive Next (registry : Registry) : Node → Node → Prop
  /-- A reference is followed. -/
  | target {name : String} {node : Node} :
    registry.get? name = some node → Next registry node (.ref name)
  /-- A schema is entered. -/
  | inner {s : Schema} {c : Node} : c ∈ s.sameNodes → Next registry c (.schema s)

variable {registry : Registry}

/-- A name without a node is the end of all steps. -/
lemma acc_of_get?_eq_none {name : String} (h : registry.get? name = none) :
    Acc registry.Next (.ref name) := by
  refine .intro _ fun c hc => ?_
  cases hc with
  | target hget =>
    rw [h] at hget
    cases hget

/-- Steps from a node come to an end if they do from the names that it mentions. -/
lemma acc_of_mentions {node : Node}
    (h : ∀ name, node.Mentions name → Acc registry.Next (.ref name)) :
    Acc registry.Next node := by
  -- The induction is on the size of the node: a reference is the only step that may lead out of it.
  induction hsize : sizeOf node using Nat.strong_induction_on generalizing node with
  | h size ih =>
    cases node with
    | ref name => exact h name (.ref name)
    | schema s =>
      refine .intro _ fun c hc => ?_
      cases hc with
      | inner hmem =>
        have hlt := Keywords.sizeOf_lt_of_mem_sameNodes hmem
        exact ih _ (hsize ▸ hlt) (fun name hname => h name (.inner hmem hname)) rfl

/-- Leading in place orders the names where none leads to itself. -/
lemma IsAcyclic.isStrictOrder (h : registry.IsAcyclic) :
    IsStrictOrder String (Function.swap (Relation.TransGen registry.LeadsTo)) where
  irrefl := h
  trans _ _ _ hba hcb := hcb.trans hba

/-- Where no name leads in place to itself, steps from names come to an end: only the names of the
registry lead anywhere, and these are finitely many. -/
lemma IsAcyclic.acc_ref (h : registry.IsAcyclic) (name : String) :
    Acc registry.Next (.ref name) := by
  have horder := h.isStrictOrder
  have hwf : {a | a ∈ registry.boundNames}.WellFoundedOn
      (Function.swap (Relation.TransGen registry.LeadsTo)) :=
    (List.finite_toSet registry.boundNames).wellFoundedOn
  have hbound : ∀ a ∈ {a | a ∈ registry.boundNames}, Acc registry.Next (.ref a) := by
    intro a ha
    refine hwf.induction (P := fun a => Acc registry.Next (.ref a)) ha fun a _ ih => ?_
    refine .intro _ fun node hnode => ?_
    cases hnode with
    | target hget =>
      refine acc_of_mentions fun b hb => ?_
      cases hb' : registry.get? b with
      | none => exact acc_of_get?_eq_none hb'
      | some target => exact ih b (mem_boundNames hb') (.single ⟨node, hget, hb⟩)
  cases hname : registry.get? name with
  | none => exact acc_of_get?_eq_none hname
  | some target => exact hbound name (mem_boundNames hname)

/-- **Steps in place come to an end** where no name leads in place to itself. -/
theorem IsAcyclic.wellFounded_next (h : registry.IsAcyclic) : WellFounded registry.Next :=
  ⟨fun _ => acc_of_mentions fun name _ => h.acc_ref name⟩

end Registry

end DataSchema
