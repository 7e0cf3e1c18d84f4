import DataSchema.Proofs.CastLeeway

set_option autoImplicit false

/-!
# Unrelated entries of a registry

A check or a cast asks a registry for the names that its node leads to, and for no others: a schema
is checked and cast by the nodes below it alone, and a reference by what it names. Entries that the
node does not lead to can therefore be changed, added and removed, and nothing comes out
differently. A discriminator is the exception, since it takes a name from the value.

## Main definitions

* `DataSchema.Registry.ReachesName` — the names that a node leads to.
* `DataSchema.Registry.AgreesFrom` — registries that agree on the names that a node leads to.

## Main results

* `DataSchema.Validation.checkSchema_congr`, `DataSchema.Casting.castSchema_congr` — evaluations by
  a schema depend on those by the nodes below it alone.
* `DataSchema.Validation.checkNode_agrees`, `DataSchema.Casting.castNode_agrees` — evaluations with
  registries that agree.
* `DataSchema.evaluated_in_agreement` — checks and casts of whole values.
-/

namespace DataSchema

/-! ## Checks by the nodes below a schema -/

namespace Validation

variable {child child' : NodeChecker} {s : Schema}

/-- The keywords for objects go by the checks of the nodes for parts. -/
lemma checkObject_congr (h : ∀ c ∈ s.partNodes, child c = child' c) (v : Value) (path : Path) :
    checkObject child s v path = checkObject child' s v path := by
  have hdeclared : ∀ data, checkProperties child s data path =
      checkProperties child' s data path := by
    intro data
    refine gather_congr fun p hp => ?_
    rw [h p.2 (Keywords.mem_partNodes_declared hp)]
  have hadditional : ∀ data, checkAdditional child s data path =
      checkAdditional child' s data path := by
    intro data
    unfold checkAdditional
    split
    · rfl
    · rfl
    · rfl
    next node hnode => rw [h node (Keywords.mem_partNodes_additional hnode)]
  unfold checkObject
  simp only [hdeclared, hadditional]

/-- The keywords for arrays go by the check of the node for items. -/
lemma checkArray_congr (h : ∀ c ∈ s.partNodes, child c = child' c) (v : Value) (path : Path) :
    checkArray child s v path = checkArray child' s v path := by
  have hitems : ∀ items, checkItems child s items path = checkItems child' s items path := by
    intro items
    unfold checkItems
    split
    · rfl
    next node hnode => rw [h node (Keywords.mem_partNodes_items hnode)]
  unfold checkArray
  simp only [hitems]

/-- The keywords that compose schemas go by the checks of the nodes for the value itself. -/
lemma checkComposition_congr (h : ∀ c ∈ s.sameNodes, child c = child' c) (v : Value)
    (path : Path) : checkComposition child s v path = checkComposition child' s v path := by
  have hconforms : ∀ c ∈ s.sameNodes, conforms child c v path = conforms child' c v path := by
    intro c hc
    rw [conforms, conforms, h c hc]
  have hall : gather s.allOfList (fun node => child node v path) =
      gather s.allOfList fun node => child' node v path :=
    gather_congr fun c hc => by rw [h c (Keywords.mem_sameNodes_allOf hc)]
  have hany : checkAnyOf child s v path = checkAnyOf child' s v path := by
    rw [checkAnyOf, checkAnyOf,
      conformsToAny_congr fun c hc => hconforms c (Keywords.mem_sameNodes_anyOf hc)]
  have hone : checkOneOf child s v path = checkOneOf child' s v path := by
    rw [checkOneOf, checkOneOf,
      conformingCount_congr fun c hc => hconforms c (Keywords.mem_sameNodes_oneOf hc)]
  have hnot : checkNot child s v path = checkNot child' s v path := by
    unfold checkNot
    split
    · rfl
    next node hnode => rw [hconforms node (Keywords.mem_sameNodes_not hnode)]
  rw [checkComposition, checkComposition, hall, hany, hone, hnot]

/-- **A schema is checked by the checks of the nodes below it**, and by nothing else. -/
lemma checkSchema_congr (h : ∀ c ∈ s.children, child c = child' c) (v : Value) (path : Path) :
    checkSchema child s v path = checkSchema child' s v path := by
  have hpart : ∀ c ∈ s.partNodes, child c = child' c :=
    fun c hc => h c (Keywords.mem_children_of_part hc)
  have hsame : ∀ c ∈ s.sameNodes, child c = child' c :=
    fun c hc => h c (Keywords.mem_children_of_same hc)
  unfold checkSchema checkKeywords
  rw [checkObject_congr hpart, checkArray_congr hpart, checkComposition_congr hsame]

end Validation

/-! ## Casts by the nodes below a schema -/

namespace Casting

variable {child child' : NodeCaster} {check check' : NodeChecker} {s : Schema}

/-- Declared properties are cast by the casts of their nodes. -/
lemma castDeclared_congr {ps : List (String × Node)} (h : ∀ p ∈ ps, child p.2 = child' p.2)
    (data : Entries) (path : Path) (active : List String) :
    castDeclared child data path active ps = castDeclared child' data path active ps := by
  induction ps with
  | nil => rfl
  | cons p ps ih =>
    have hothers := ih fun q hq => h q (List.mem_cons_of_mem p hq)
    rw [castDeclared, castDeclared, h p List.mem_cons_self, hothers]

/-- The shape of a schema itself casts by the casts of the nodes for parts. -/
lemma castOwn_congr (h : ∀ c ∈ s.partNodes, child c = child' c) (v : Value) (path : Path)
    (active : List String) : castOwn child s v path active = castOwn child' s v path active := by
  have hdeclared : ∀ data, castDeclared child data path active s.declared =
      castDeclared child' data path active s.declared := by
    intro data
    exact castDeclared_congr (fun p hp => h p.2 (Keywords.mem_partNodes_declared hp)) data path
      active
  have hextra : ∀ extra, castExtra child s extra path active =
      castExtra child' s extra path active := by
    intro extra
    unfold castExtra
    split
    · rfl
    · rfl
    · rfl
    next node hnode => rw [h node (Keywords.mem_partNodes_additional hnode)]
  have hitems : ∀ items, castItems child s items path active =
      castItems child' s items path active := by
    intro items
    unfold castItems
    split
    · rfl
    next node hnode => rw [h node (Keywords.mem_partNodes_items hnode)]
  unfold castOwn castObject castArray
  simp only [hdeclared, hextra, hitems]

/-- Members put over each other are cast by the casts of their nodes. -/
lemma castMembers_congr {nodes : List Node} (h : ∀ c ∈ nodes, child c = child' c) (path : Path)
    (active : List String) (merged source : Entries) :
    castMembers child path active merged source nodes =
      castMembers child' path active merged source nodes := by
  induction nodes generalizing merged source with
  | nil => rfl
  | cons c cs ih =>
    have hothers := ih fun c' hc' => h c' (List.mem_cons_of_mem c hc')
    simp only [castMembers, h c List.mem_cons_self, hothers]

/-- Members one after another are cast by the casts of their nodes. -/
lemma castInTurn_congr {nodes : List Node} (h : ∀ c ∈ nodes, child c = child' c) (path : Path)
    (active : List String) (v : Value) :
    castInTurn child path active v nodes = castInTurn child' path active v nodes := by
  induction nodes generalizing v with
  | nil => rfl
  | cons c cs ih =>
    have hothers := ih fun c' hc' => h c' (List.mem_cons_of_mem c hc')
    simp only [castInTurn, h c List.mem_cons_self, hothers]

/-- A choice among alternatives goes by the casts and the checks of their nodes. -/
lemma firstMatch_congr {nodes : List Node} (h : ∀ c ∈ nodes, child c = child' c)
    (hcheck : ∀ c ∈ nodes, check c = check' c) (source : Value) (path : Path)
    (active : List String) (index : Nat) :
    firstMatch child check source path active index nodes =
      firstMatch child' check' source path active index nodes := by
  induction nodes generalizing index with
  | nil => rfl
  | cons c cs ih =>
    have hothers := ih (fun c' hc' => h c' (List.mem_cons_of_mem c hc'))
      fun c' hc' => hcheck c' (List.mem_cons_of_mem c hc')
    simp only [firstMatch, Validation.conforms, h c List.mem_cons_self,
      hcheck c List.mem_cons_self, hothers]

/-- What is asked of a composed value goes by the checks of the nodes below the schema, and of the
schema without its alternatives. -/
lemma requireWhole_congr (hcheck : ∀ c ∈ s.children, check c = check' c)
    (hwhole : check (.schema s.withoutAlternatives) = check' (.schema s.withoutAlternatives))
    (v : Value) (path : Path) : requireWhole check s v path = requireWhole check' s v path := by
  unfold requireWhole
  rw [hwhole]
  cases hnot : s.notSchema with
  | none => rfl
  | some node =>
    have hnode : node ∈ s.children :=
      Keywords.mem_children_of_same (Keywords.mem_sameNodes_not hnot)
    simp only [Validation.conforms, hcheck node hnode]

/-- **A schema that selects no other casts by the casts and the checks of the nodes below it**, and
by the check of what it asks of the whole. -/
lemma castSchema_congr {context context' : CastContext} (htypes : context.types = context'.types)
    (hs : s.discriminator = none) (h : ∀ c ∈ s.children, child c = child' c)
    (hcheck : ∀ c ∈ s.children, check c = check' c)
    (hwhole : check (.schema s.withoutAlternatives) = check' (.schema s.withoutAlternatives))
    (v : Value) (path : Path) (active : List String) :
    castSchema context child check s v path active =
      castSchema context' child' check' s v path active := by
  have hown : ∀ v, castOwn child s v path active = castOwn child' s v path active :=
    fun v => castOwn_congr (fun c hc => h c (Keywords.mem_children_of_part hc)) v path active
  have hmember : ∀ c ∈ s.allOfList, child c = child' c :=
    fun c hc => h c (Keywords.mem_children_of_same (Keywords.mem_sameNodes_allOf hc))
  have hall : ∀ own, castAllOf child s v own path active =
      castAllOf child' s v own path active := by
    intro own
    rw [castAllOf, castAllOf, castMembers_congr hmember, castInTurn_congr hmember]
  have halternative : ∀ own, castAlternative child check s v own path active =
      castAlternative child' check' s v own path active := by
    intro own
    unfold castAlternative
    simp only [firstMatch_congr (fun c hc => h c (Leeway.mem_children_of_alternatives hc))
      fun c hc => hcheck c (Leeway.mem_children_of_alternatives hc)]
  unfold castSchema castComposed
  simp only [dispatch_eq_none hs, htypes, hown, hall, halternative,
    requireWhole_congr hcheck hwhole]

end Casting

/-! ## Registries that agree -/

namespace Registry

/-- A node leads to a name: it is a reference to the name, or to a name whose node leads there, or a
schema with a node below it that leads there. -/
inductive ReachesName (r : Registry) : Node → String → Prop
  /-- A reference leads to its name. -/
  | here (name : String) : ReachesName r (.ref name) name
  /-- A reference leads where the node of its name does. -/
  | ref {name other : String} {node : Node} :
    r.get? name = some node → ReachesName r node other → ReachesName r (.ref name) other
  /-- A schema leads where a node below it does. -/
  | child {s : Schema} {c : Node} {name : String} :
    c ∈ s.children → ReachesName r c name → ReachesName r (.schema s) name

/-- What holds of a node, and is handed down along references and to the nodes below schemas, holds
of a reference to any name that the node leads to. -/
lemma ReachesName.of_closed {r : Registry} {Q : Node → Prop} {node : Node} {name : String}
    (h : r.ReachesName node name)
    (href : ∀ other target, Q (.ref other) → r.get? other = some target → Q target)
    (hchild : ∀ s c, Q (.schema s) → c ∈ s.children → Q c) (hnode : Q node) : Q (.ref name) := by
  induction h with
  | here name => exact hnode
  | ref hget _ ih => exact ih (href _ _ hnode hget)
  | child hc _ ih => exact ih (hchild _ _ hnode hc)

/-- Two registries bind the names that a node leads to alike: to the same node, or not at all. -/
def AgreesFrom (r r' : Registry) (node : Node) : Prop :=
  ∀ name, r.ReachesName node name → r.get? name = r'.get? name

namespace AgreesFrom

variable {r r' : Registry} {name : String} {s : Schema}

/-- Registries that agree from a reference on bind its name alike. -/
lemma get?_eq (h : r.AgreesFrom r' (.ref name)) : r.get? name = r'.get? name := h name (.here name)

/-- Registries that agree from a reference on agree from the node of its name on. -/
lemma ref {node : Node} (h : r.AgreesFrom r' (.ref name)) (hget : r.get? name = some node) :
    r.AgreesFrom r' node :=
  fun other hother => h other (.ref hget hother)

/-- Registries that agree from a schema on agree from the nodes below it on. -/
lemma below {c : Node} (h : r.AgreesFrom r' (.schema s)) (hc : c ∈ s.children) :
    r.AgreesFrom r' c :=
  fun other hother => h other (.child hc hother)

/-- Registries that agree from a schema on agree from it on when its alternatives are left out. -/
lemma withoutAlternatives (h : r.AgreesFrom r' (.schema s)) :
    r.AgreesFrom r' (.schema s.withoutAlternatives) := by
  intro name hname
  cases hname with
  | child hc hname =>
    exact h name (.child (Keywords.mem_children_of_withoutAlternatives hc) hname)

end AgreesFrom

end Registry

namespace Validation

/-- **Checks with registries that agree** from the node on are the same.

**Proof sketch.** Induction on the depth. Both checks look up the same node for a reference, and by
a schema they check the nodes below it, from which on the registries agree as well. -/
theorem checkNode_agrees {r r' : Registry} (limit : Int) {depth : Nat} {node : Node}
    (h : r.AgreesFrom r' node) : checkNode r limit depth node = checkNode r' limit depth node := by
  induction depth, node using r.node_induction with
  | zero node => rfl
  | unknown depth name hget =>
    funext v path
    rw [checkNode_unknown hget, checkNode_unknown (h.get?_eq.symm.trans hget)]
  | named depth name s hget ih =>
    funext v path
    rw [checkNode_named hget, checkNode_named (h.get?_eq.symm.trans hget), ih (h.ref hget)]
  | link depth name other hget ih =>
    funext v path
    rw [checkNode_link hget, checkNode_link (h.get?_eq.symm.trans hget), ih (h.ref hget)]
  | schema depth s ih =>
    funext v path
    exact checkSchema_congr (fun c hc => ih c (h.below hc)) v path

end Validation

namespace Casting

/-- **Casts with registries that agree** from the node on are the same, if nothing is selected on
the way.

**Proof sketch.** Induction on the depth, as for checks. What a cast checks on the way are nodes
from which on the registries agree, the schema without its alternatives among them. -/
theorem castNode_agrees {r r' : Registry} (types : TypeMap) (limit : Int) {depth : Nat}
    {node : Node} (h : r.AgreesFrom r' node) (hselects : r.SelectsNothing node) :
    castNode ⟨r, types, limit⟩ depth node = castNode ⟨r', types, limit⟩ depth node := by
  induction depth, node using r.node_induction with
  | zero node => rfl
  | unknown depth name hget =>
    funext v path active
    rw [castNode_unknown hget, castNode_unknown (h.get?_eq.symm.trans hget)]
  | named depth name s hget ih =>
    funext v path active
    rw [castNode_named hget, castNode_named (h.get?_eq.symm.trans hget),
      ih (h.ref hget) (hselects.ref hget)]
  | link depth name other hget ih =>
    funext v path active
    rw [castNode_link hget, castNode_link (h.get?_eq.symm.trans hget),
      ih (h.ref hget) (hselects.ref hget)]
  | schema depth s ih =>
    funext v path active
    apply castSchema_congr
    · rfl
    · exact hselects s (.here s)
    · exact fun c hc => ih c (h.below hc) (hselects.below hc)
    · exact fun c hc => Validation.checkNode_agrees limit (h.below hc)
    · exact Validation.checkNode_agrees limit h.withoutAlternatives

end Casting

/-! ## Whole values -/

/-- **Unrelated entries do not matter**: with two registries that bind every name alike to which a
node leads, through nodes below schemas of any kind and through references, cyclic ones included,
checks against the node are the same for every value and limit, what stops them included. So are
casts, if the node leads to no schema with a discriminator. -/
theorem evaluated_in_agreement (types : TypeMap) {registry registry' : Registry} {node : Node}
    (h : registry.AgreesFrom registry' node) (v : Value) (limit : Int) :
    validate registry node v limit = validate registry' node v limit ∧
      (registry.SelectsNothing node →
        cast ⟨registry, types, limit⟩ node v = cast ⟨registry', types, limit⟩ node v) := by
  constructor
  · unfold validate
    rw [Validation.checkNode_agrees limit h]
  · intro hselects
    unfold cast
    dsimp only
    rw [Casting.castNode_agrees types limit h hselects]

/-- A tree: a label, and the trees below it. -/
def tree : Schema where
  type := some .object
  properties := some [("label", .schema { type := some .integer }),
    ("below", .schema { type := some .array, items := some (.ref "Tree") })]

/-- Trees alone. -/
def forest : Registry := ⟨[("Tree", .schema tree)]⟩

/-- Trees, after animals that are told apart by their kind. -/
def wildForest : Registry :=
  ⟨[("Animal", .schema { discriminator := some ⟨"kind", []⟩ }), ("Bird", .ref "Animal"),
    ("Tree", .schema tree)]⟩

/-- What the schema of trees leads to. -/
inductive IsTreeNode : Node → Prop
  | tree : IsTreeNode (.schema tree)
  | name : IsTreeNode (.ref "Tree")
  | label : IsTreeNode (.schema { type := some .integer })
  | below : IsTreeNode (.schema { type := some .array, items := some (.ref "Tree") })

/-- The nodes below those of trees are among them. -/
lemma IsTreeNode.child {s : Schema} {c : Node} (h : IsTreeNode (.schema s)) (hc : c ∈ s.children) :
    IsTreeNode c := by
  cases h with
  | tree =>
    rcases List.mem_cons.1 hc with rfl | hc
    · exact .label
    · obtain rfl := List.mem_singleton.1 hc
      exact .below
  | label => cases hc
  | below =>
    obtain rfl := List.mem_singleton.1 hc
    exact .name

/-- A tree with a wrong label two levels down is found wrong, and a tree with labels as texts is
cast, whether there are animals or not. -/
theorem tree_in_agreement :
    let wrong : Value := .mapping [(.str "below", .list [.mapping [(.str "label", .str "one")]])]
    let written : Value := .mapping [(.str "below", .list [.mapping [(.str "label", .str "1")]])]
    (∃ is, validate forest (.ref "Tree") wrong 64 = .ok is ∧ is.map Issue.kind = [.wrongType] ∧
      validate wildForest (.ref "Tree") wrong 64 = .ok is) ∧
    (cast ⟨wildForest, .generic, 64⟩ (.ref "Tree") written).outcome =
      .ok (.ok (.mapping [(.str "below", .list [.mapping [(.str "label", .int 1)]])])) := by
  have hget : ∀ name target, IsTreeNode (.ref name) → forest.get? name = some target →
      IsTreeNode target := by
    intro name target h hget
    cases h with
    | name =>
      obtain rfl := Option.some.inj hget
      exact .tree
  have hagrees : forest.AgreesFrom wildForest (.ref "Tree") := by
    intro name h
    cases h.of_closed hget (fun s c hs hc => hs.child hc) .name with
    | name => rfl
  have hselects : forest.SelectsNothing (.ref "Tree") := by
    intro s h
    cases h.of_closed hget (fun t c ht hc => ht.child hc) .name <;> rfl
  intro wrong written
  obtain ⟨hcheck, -⟩ := evaluated_in_agreement .generic hagrees wrong 64
  obtain ⟨-, hcast⟩ := evaluated_in_agreement .generic hagrees written 64
  obtain ⟨is, his, hkinds⟩ : ∃ is, validate forest (.ref "Tree") wrong 64 = .ok is ∧
      is.map Issue.kind = [.wrongType] := exists_ok_of_kinds (by decide +kernel)
  refine ⟨⟨is, his, hkinds, hcheck ▸ his⟩, ?_⟩
  rw [← hcast hselects]
  rfl

end DataSchema
