import DataSchema.Proofs.CheckLeeway
import DataSchema.Proofs.CastSteps
import DataSchema.Proofs.Descent
import DataSchema.Proofs.NodeSteps

set_option autoImplicit false

/-!
# Casts side by side

Each step of a cast makes related casts out of related casts of child nodes, and so does a whole
schema, as long as the discriminator selects alike. Two differences between runs are of interest:
the depth that is left, and the names that are open, of which only discriminators take notice.

## Main definitions

* `DataSchema.Event.selects` — whether a discriminator has selected one of some names.
* `DataSchema.Registry.SelectsNothing` — nodes that lead to no schema with a discriminator.
* `DataSchema.Leeway.CastAt` — related casts by a node at all corresponding locations.
* `DataSchema.Leeway.unselected` — the leeway of a run with more names open.

## Main results

* `DataSchema.Leeway.castSchema` — related casts by the nodes below a schema make related casts by
  the schema.
* `DataSchema.Casting.castNode_deeper` — casts at different depths and places.
* `DataSchema.Casting.castNode_unselecting` — the same with different names open, where nothing is
  selected.
* `DataSchema.Casting.castNode_open` — casts with different names open.
-/

namespace DataSchema

/-- Whether an event is that a discriminator has selected one of the given names. -/
def Event.selects (names : List String) : Event → Bool
  | dispatched _ _ _ target => names.contains target
  | _ => false

namespace Registry

/-- No schema that a node leads to selects another by a discriminator. -/
def SelectsNothing (registry : Registry) (node : Node) : Prop :=
  ∀ s, registry.Reaches Keywords.children node s → s.discriminator = none

variable {registry : Registry} {s : Schema}

/-- Where a reference selects nothing, its target does not. -/
lemma SelectsNothing.ref {name : String} {node : Node} (h : registry.SelectsNothing (.ref name))
    (hget : registry.get? name = some node) : registry.SelectsNothing node :=
  fun t ht => h t (.ref hget ht)

/-- Where a schema selects nothing, the nodes below it do not. -/
lemma SelectsNothing.below {c : Node} (h : registry.SelectsNothing (.schema s))
    (hc : c ∈ s.children) : registry.SelectsNothing c :=
  fun t ht => h t (.child hc ht)

end Registry

namespace Leeway

open Casting

variable {L : Leeway} {p q : Path} {as bs : List String}

/-- Related casts by a node at all corresponding locations, with given names open. -/
def CastAt (L : Leeway) (child₁ child₂ : NodeCaster) (as bs : List String) (node : Node) : Prop :=
  ∀ v p q, L.place p q → L.SameCasts Eq (child₁ node v p as) (child₂ node v q bs)

/-! ## Scalars -/

/-- A value that is neither an object nor an array is converted alike. -/
lemma castScalar (h : L.place p q) (s : Schema) (v : Value) :
    L.SameCasts Eq (castScalar s v p) (castScalar s v q) := by
  cases castScalar_conversion s v with
  | result r _ heq =>
    rw [heq, heq]
    exact .pure rfl
  | issue kind message heq =>
    rw [heq, heq]
    exact .fail h kind message
  | offCalendar text _ _ _ heq =>
    rw [heq, heq]
    exact .stop _

/-! ## Objects -/

/-- Required names are asked for alike. -/
lemma requireNames (h : L.place p q) (s : Schema) (data : Entries) :
    L.SameCasts Eq (requireNames s data p) (requireNames s data q) := by
  unfold Casting.requireNames
  refine .bind_same (.guarded (.refl (fun _ => rfl) _)) fun missing => ?_
  split
  · exact .pure rfl
  · split
    · exact .fail h _ _
    · exact .stop _

/-- Undeclared properties are refused alike. -/
lemma refuseExtra (h : L.place p q) (s : Schema) (extra : Entries) :
    L.SameCasts Eq (refuseExtra s extra p) (refuseExtra s extra q) := by
  unfold Casting.refuseExtra
  split
  · refine .inr (.issues (.cons ⟨rfl, rfl, h⟩ ?_))
    refine List.forall₂_map_left_iff.2 (List.forall₂_map_right_iff.2 (List.forall₂_same.2 ?_))
    exact fun e _ => ⟨rfl, rfl, L.place_step h _⟩
  · exact .pure rfl

variable {child₁ child₂ : NodeCaster} {s : Schema}

/-- Declared properties are cast alike. -/
lemma castDeclared {ps : List (String × Node)}
    (hchild : ∀ d ∈ ps, L.CastAt child₁ child₂ as bs d.2) (h : L.place p q) (data : Entries) :
    L.SameCasts Eq (castDeclared child₁ data p as ps) (castDeclared child₂ data q bs ps) := by
  induction ps with
  | nil => exact .pure rfl
  | cons d ps ih =>
    have hrest := ih fun e he => hchild e (List.mem_cons_of_mem d he)
    unfold Casting.castDeclared
    split
    · exact hrest
    · refine .bind_same (hchild d List.mem_cons_self _ _ _ (L.place_step h _)) fun cast => ?_
      exact .bind_same hrest fun others => .pure rfl

/-- Undeclared properties are cast alike. -/
lemma castExtra (hchild : ∀ c ∈ s.children, L.CastAt child₁ child₂ as bs c) (h : L.place p q)
    (extra : Entries) :
    L.SameCasts Eq (castExtra child₁ s extra p as) (castExtra child₂ s extra q bs) := by
  unfold Casting.castExtra
  split
  · exact .pure rfl
  · exact .pure rfl
  · exact .pure rfl
  next node hnode =>
    have hnode := hchild _ (Keywords.mem_children_of_part (Keywords.mem_partNodes_additional hnode))
    refine .mapM_same fun e _ => ?_
    exact .bind_same (hnode _ _ _ (L.place_step h _)) fun cast => .pure rfl

/-- Numbers of things are asked for alike. -/
lemma requireCount (h : L.place p q) (count : Nat) (least most : Value)
    (container things : String) :
    L.SameCasts Eq (requireCount count least most container things p)
      (requireCount count least most container things q) := by
  unfold Casting.requireCount
  have hmany : L.SameCasts Eq
      (guarded (Validation.above count most) >>= fun many =>
        if many then failCast (container ++ " has more than " ++ most.text ++ " " ++ things) p
        else Pure.pure ())
      (guarded (Validation.above count most) >>= fun many =>
        if many then failCast (container ++ " has more than " ++ most.text ++ " " ++ things) q
        else Pure.pure ()) := by
    refine .bind_same (.guarded (.refl (fun _ => rfl) _)) fun many => ?_
    split
    · exact .fail h _ _
    · exact .pure rfl
  refine .bind_same (.guarded (.refl (fun _ => rfl) _)) fun few => ?_
  split
  · exact .bind_same (.fail h _ _) fun _ => hmany
  · exact hmany

/-- An object is cast alike. -/
lemma castObject (hchild : ∀ c ∈ s.children, L.CastAt child₁ child₂ as bs c) (h : L.place p q)
    (v : Value) : L.SameCasts Eq (castObject child₁ s v p as) (castObject child₂ s v q bs) := by
  unfold Casting.castObject
  split
  · exact .fail h _ _
  next data _ =>
    have hdeclared : ∀ d ∈ s.declared, L.CastAt child₁ child₂ as bs d.2 := fun d hd =>
      hchild _ (Keywords.mem_children_of_part (Keywords.mem_partNodes_declared hd))
    refine .bind_same (requireNames h s data) fun _ => ?_
    refine .bind_same (refuseExtra h s _) fun _ => ?_
    refine .bind_same (castDeclared hdeclared h data) fun declared => ?_
    refine .bind_same (castExtra hchild h _) fun others => ?_
    exact .bind_same (requireCount h _ _ _ _ _) fun _ => .pure rfl

/-! ## Arrays -/

/-- Repeated items are refused alike. -/
lemma requireUnique (h : L.place p q) (s : Schema) (items : List Value) :
    L.SameCasts Eq (requireUnique s items p) (requireUnique s items q) := by
  unfold Casting.requireUnique
  split
  · split
    · exact .fail h _ _
    · exact .pure rfl
  · exact .pure rfl

/-- Items are cast alike. -/
lemma castItems (hchild : ∀ c ∈ s.children, L.CastAt child₁ child₂ as bs c) (h : L.place p q)
    (items : List Value) :
    L.SameCasts Eq (castItems child₁ s items p as) (castItems child₂ s items q bs) := by
  unfold Casting.castItems
  split
  · exact .pure rfl
  next node hnode =>
    exact .mapM_same fun item _ =>
      hchild _ (Keywords.mem_children_of_part (Keywords.mem_partNodes_items hnode)) _ _ _
        (L.place_step h _)

/-- An array is cast alike. -/
lemma castArray (hchild : ∀ c ∈ s.children, L.CastAt child₁ child₂ as bs c) (h : L.place p q)
    (v : Value) : L.SameCasts Eq (castArray child₁ s v p as) (castArray child₂ s v q bs) := by
  unfold Casting.castArray
  split
  · exact .fail h _ _
  next items _ =>
    refine .bind_same (castItems hchild h items) fun result => ?_
    refine .bind_same (requireCount h _ _ _ _ _) fun _ => ?_
    exact .bind_same (requireUnique h s result) fun _ => .pure rfl

/-! ## The shape of a schema itself -/

/-- A value is cast by the shape of a schema alike. -/
lemma castOwn (hchild : ∀ c ∈ s.children, L.CastAt child₁ child₂ as bs c) (h : L.place p q)
    (v : Value) : L.SameCasts Eq (castOwn child₁ s v p as) (castOwn child₂ s v q bs) := by
  unfold Casting.castOwn
  split
  · exact castObject hchild h v
  · split
    · exact castArray hchild h v
    · refine .bind_same (castScalar h s v) fun result => ?_
      refine .bind_same (.require ?_) fun _ => .pure rfl
      refine (checkScalar h s result).bind fun scalar scalar' hscalar => .ok ?_
      exact List.rel_append (checkEnum h s result) hscalar

/-! ## Composition -/

/-- Members of a composition cast an object alike. -/
lemma castMembers {nodes : List Node} (hchild : ∀ c ∈ nodes, L.CastAt child₁ child₂ as bs c)
    (h : L.place p q) (merged source : Entries) :
    L.SameCasts Eq (castMembers child₁ p as merged source nodes)
      (castMembers child₂ q bs merged source nodes) := by
  induction nodes generalizing merged source with
  | nil => exact .pure rfl
  | cons c cs ih =>
    refine .bind_same (hchild c List.mem_cons_self _ p q h) fun part => ?_
    split
    · exact ih (fun c' hc' => hchild c' (List.mem_cons_of_mem c hc')) _ _
    · exact .fail h _ _

/-- Members of a composition cast any other value alike. -/
lemma castInTurn {nodes : List Node} (hchild : ∀ c ∈ nodes, L.CastAt child₁ child₂ as bs c)
    (h : L.place p q) (v : Value) :
    L.SameCasts Eq (castInTurn child₁ p as v nodes) (castInTurn child₂ q bs v nodes) := by
  induction nodes generalizing v with
  | nil => exact .pure rfl
  | cons c cs ih =>
    refine .bind_same (hchild c List.mem_cons_self v p q h) fun next => ?_
    exact ih (fun c' hc' => hchild c' (List.mem_cons_of_mem c hc')) next

/-- All members of a composition cast alike. -/
lemma castAllOf (hchild : ∀ c ∈ s.children, L.CastAt child₁ child₂ as bs c) (h : L.place p q)
    (v own : Value) :
    L.SameCasts Eq (castAllOf child₁ s v own p as) (castAllOf child₂ s v own q bs) := by
  have hall : ∀ c ∈ s.allOfList, L.CastAt child₁ child₂ as bs c := fun c hc =>
    hchild c (Keywords.mem_children_of_same (Keywords.mem_sameNodes_allOf hc))
  unfold Casting.castAllOf
  split
  · exact .pure rfl
  · split
    · exact castMembers hall h _ _
    · exact castInTurn hall h own

variable {check₁ check₂ : NodeChecker}

/-- The first alternative that fits is found alike. -/
lemma firstMatch {nodes : List Node} (hchild : ∀ c ∈ nodes, L.CastAt child₁ child₂ as bs c)
    (hcheck : ∀ c ∈ nodes, L.FoundAt check₁ check₂ c) (h : L.place p q) (source : Value)
    (index : Nat) :
    L.SameCasts Eq (firstMatch child₁ check₁ source p as index nodes)
      (firstMatch child₂ check₂ source q bs index nodes) := by
  induction nodes generalizing index with
  | nil => exact .pure rfl
  | cons c cs ih =>
    have hrest : ∀ i, L.SameCasts Eq (Casting.firstMatch child₁ check₁ source p as i cs)
        (Casting.firstMatch child₂ check₂ source q bs i cs) :=
      ih (fun c' hc' => hchild c' (List.mem_cons_of_mem c hc'))
        fun c' hc' => hcheck c' (List.mem_cons_of_mem c hc')
    refine .bind_same (.attempt (hchild c List.mem_cons_self source p q h)) fun result? => ?_
    cases result? with
    | none => exact hrest _
    | some result =>
      have hconforms := Leeway.conforms (hcheck c List.mem_cons_self) h result
      refine .bind_same (.guarded hconforms) fun fits => ?_
      cases fits with
      | true => exact .pure rfl
      | false => exact hrest _

/-- The alternatives that are tried stand below the schema. -/
lemma mem_children_of_alternatives {c : Node} (h : c ∈ alternatives s) : c ∈ s.children :=
  Keywords.mem_children_of_same (mem_sameNodes_of_alternatives h)

/-- Alternatives cast alike. -/
lemma castAlternative (hchild : ∀ c ∈ s.children, L.CastAt child₁ child₂ as bs c)
    (hcheck : ∀ c ∈ s.children, L.FoundAt check₁ check₂ c) (h : L.place p q) (v own : Value) :
    L.SameCasts Eq (castAlternative child₁ check₁ s v own p as)
      (castAlternative child₂ check₂ s v own q bs) := by
  unfold Casting.castAlternative
  split
  · refine .bind_same (firstMatch (fun c hc => hchild c (mem_children_of_alternatives hc))
      (fun c hc => hcheck c (mem_children_of_alternatives hc)) h _ 0) fun choice? => ?_
    cases choice? with
    | none => exact .fail h _ _
    | some choice => exact .inr (.ok rfl)
  · exact .pure rfl

/-- The schema that must not match is refused alike. -/
lemma refuseMatch (hcheck : ∀ c ∈ s.children, L.FoundAt check₁ check₂ c) (h : L.place p q)
    (v : Value) : L.SameCasts Eq (refuseMatch check₁ s v p) (refuseMatch check₂ s v q) := by
  unfold Casting.refuseMatch
  split
  · exact .pure rfl
  next node hnode =>
    have hchild := hcheck node (Keywords.mem_children_of_same (Keywords.mem_sameNodes_not hnode))
    refine .bind_same (.guarded (Leeway.conforms hchild h v)) fun matching => ?_
    split
    · exact .fail h _ _
    · exact .pure rfl

/-- A composed value is asked to conform alike. -/
lemma requireWhole (hcheck : ∀ c ∈ s.children, L.FoundAt check₁ check₂ c)
    (hwhole : L.FoundAt check₁ check₂ (.schema s.withoutAlternatives)) (h : L.place p q)
    (v : Value) :
    L.SameCasts Eq (requireWhole check₁ s v p) (requireWhole check₂ s v q) := by
  rw [requireWhole_eq, requireWhole_eq]
  refine .bind_same ?_ fun _ => refuseMatch hcheck h v
  split
  · exact .require (hwhole v p q h)
  · exact .pure rfl

/-! ## Schemas -/

/-- A record is built alike. -/
lemma materialize (h : L.place p q) (types : TypeMap) (s : Schema) (v : Value) :
    L.SameCasts Eq (materialize types s v p) (materialize types s v q) := by
  have htarget : L.SameCasts Eq (targetType types s p) (targetType types s q) := by
    unfold Casting.targetType
    split
    · exact .pure rfl
    · exact .pure rfl
    · split
      · exact .stop _
      · split
        · exact .pure rfl
        · exact .fail h _ _
  unfold Casting.materialize
  refine .bind_same htarget fun target => ?_
  split
  · split
    · exact .pure rfl
    · exact .fail h _ _
  · exact .pure rfl

/-- A discriminator selects alike, if every name is open in both runs or in neither, or else to
select it excuses the second run. -/
lemma dispatch {registry : Registry} (h : L.place p q)
    (hchild : ∀ name, L.CastAt child₁ child₂ as bs (.ref name))
    (hopen : ∀ name, as.contains name = bs.contains name ∨
      as.contains name = false ∧ (registry.get? name).isSome ∧
        ∀ property tag location, L.event (.dispatched property tag location name))
    (s : Schema) (v : Value) :
    L.SameCasts Eq (dispatch child₁ registry s v p as) (dispatch child₂ registry s v q bs) := by
  unfold Casting.dispatch
  split
  next d es _ =>
    dsimp only
    split
    · exact .pure rfl
    next tag _ =>
      split
      · exact .fail (L.place_step h _) _ _
      next target _ =>
        rcases hopen target with heq | ⟨has, hsome, hevent⟩
        · rw [heq]
          split
          · exact .pure rfl
          · split
            · exact .fail (L.place_step h _) _ _
            · exact .emit (.bind_same (hchild target _ p q h) fun result => .pure rfl)
        · have hnone : (registry.get? target).isNone = false := by
            cases hget : registry.get? target <;> simp_all
          rw [has, hnone]
          exact .inl ⟨_, List.mem_cons_self, hevent d.propertyName tag p⟩
  · exact .pure rfl

variable {context₁ context₂ : CastContext}

/-- A schema that selects no other casts alike. -/
lemma castComposed (htypes : context₁.types = context₂.types)
    (hchild : ∀ c ∈ s.children, L.CastAt child₁ child₂ as bs c)
    (hcheck : ∀ c ∈ s.children, L.FoundAt check₁ check₂ c)
    (hwhole : L.FoundAt check₁ check₂ (.schema s.withoutAlternatives)) (h : L.place p q)
    (v : Value) :
    L.SameCasts Eq (castComposed context₁ child₁ check₁ s v p as)
      (castComposed context₂ child₂ check₂ s v q bs) := by
  unfold Casting.castComposed
  refine .bind_same (castOwn hchild h v) fun own => ?_
  refine .bind_same (castAllOf hchild h v own) fun all => ?_
  refine .bind_same (castAlternative hchild hcheck h v all) fun result => ?_
  refine .bind_same (requireWhole hcheck hwhole h result) fun _ => ?_
  rw [htypes]
  exact materialize h _ s result

/-- **Schemas cast alike**, given that the nodes below them do and that the discriminator selects
alike. -/
lemma castSchema (htypes : context₁.types = context₂.types)
    (hchild : ∀ c ∈ s.children, L.CastAt child₁ child₂ as bs c)
    (hcheck : ∀ c ∈ s.children, L.FoundAt check₁ check₂ c)
    (hwhole : L.FoundAt check₁ check₂ (.schema s.withoutAlternatives)) (h : L.place p q)
    (v : Value)
    (hdispatch : L.SameCasts Eq (Casting.dispatch child₁ context₁.registry s v p as)
      (Casting.dispatch child₂ context₂.registry s v q bs)) :
    L.SameCasts Eq (castSchema context₁ child₁ check₁ s v p as)
      (castSchema context₂ child₂ check₂ s v q bs) := by
  unfold Casting.castSchema
  split
  · exact .pure rfl
  · split
    · exact .fail h _ _
    · refine .bind_same hdispatch fun selected? => ?_
      cases selected? with
      | some result => exact .pure rfl
      | none => exact castComposed htypes hchild hcheck hwhole h v

/-- The leeway of a second run with more names open: the first is excused where a discriminator
selects one of them. -/
def unselected (names : List String) : Leeway where
  place := Eq
  place_step := by
    rintro p _ rfl token
    rfl
  fault _ := False
  event e := e.selects names = true

end Leeway

namespace Casting

open Leeway

/-- **Depth and place do not matter, nor does what is open where nothing is selected**: with at
least as much depth left, and with the same names open or without discriminators to take notice of
them, a node casts alike elsewhere, unless the first cast stops at the depth guard.

**Proof sketch.** Induction on the smaller depth, as for checks. What a cast checks on the way, it
checks one step down, so that checks at both depths are related too. -/
theorem castNode_unselecting {context context' : CastContext}
    (hregistry : context.registry = context'.registry) (htypes : context.types = context'.types)
    (base base' : Path) {depth depth' : Nat} (hdepth : depth ≤ depth') {names names' : List String}
    {node : Node} (hopen : names = names' ∨ context.registry.SelectsNothing node) :
    (deeper base base').CastAt (castNode context depth) (castNode context' depth') names names'
      node := by
  induction depth, node using context.registry.node_induction generalizing depth' names names' with
  | zero node => exact fun v p q _ => .inr (.excused rfl)
  | unknown depth name hget =>
    obtain ⟨more, rfl⟩ := Nat.exists_eq_add_of_lt hdepth
    intro v p q hpq
    rw [castNode_unknown hget, castNode_unknown (hregistry ▸ hget)]
    exact .fail hpq _ _
  | named depth name s hget ih =>
    intro v p q hpq
    rw [castNode_named hget, castNode_named (hregistry ▸ hget)]
    exact ih hdepth (hopen.imp (congrArg (name :: ·)) (·.ref hget)) v p q hpq
  | link depth name other hget ih =>
    obtain ⟨more, rfl⟩ := Nat.exists_eq_add_of_lt hdepth
    intro v p q hpq
    rw [castNode_link hget, castNode_link (hregistry ▸ hget)]
    exact ih (Nat.le_add_right depth more) (hopen.imp (congrArg (name :: ·)) (·.ref hget)) v p q hpq
  | schema depth s ih =>
    obtain ⟨more, rfl⟩ := Nat.exists_eq_add_of_lt hdepth
    have hmore : depth ≤ depth + more := Nat.le_add_right depth more
    have hcheck : ∀ c, (deeper base base').FoundAt
        (Validation.checkNode context.registry context.limit depth)
        (Validation.checkNode context'.registry context'.limit (depth + more)) c := by
      rw [hregistry]
      exact Validation.checkNode_deeper _ _ _ base base' hmore
    intro v p q hpq
    refine Leeway.castSchema htypes (fun c hc => ih c hmore (hopen.imp_right (·.below hc)))
      (fun c _ => hcheck c) (hcheck _) hpq v ?_
    rcases hopen with rfl | hnone
    · rw [hregistry]
      exact Leeway.dispatch hpq (fun name => ih (.ref name) hmore (.inl rfl)) (fun name => .inl rfl)
        s v
    · rw [dispatch_eq_none (hnone s (.here s)), dispatch_eq_none (hnone s (.here s))]
      exact .pure rfl

/-- **Depth and place do not matter**: with at least as much depth left and the same names open, a
node casts alike elsewhere, unless the first cast stops at the depth guard. -/
theorem castNode_deeper {context context' : CastContext}
    (hregistry : context.registry = context'.registry) (htypes : context.types = context'.types)
    (base base' : Path) {depth depth' : Nat} (hdepth : depth ≤ depth') (names : List String)
    (node : Node) :
    (deeper base base').CastAt (castNode context depth) (castNode context' depth') names names
      node :=
  castNode_unselecting hregistry htypes base base' hdepth (.inl rfl)

/-- **Only discriminators take notice of what is open**: with more names open, a node casts alike,
unless the first cast selects one of them.

**Proof sketch.** Induction on the depth. The runs differ at a discriminator alone: where it
selects a name that is open in the second run only, the first reports so and is excused. -/
theorem castNode_open (context : CastContext) {extra : List String}
    (hextra : ∀ name ∈ extra, (context.registry.get? name).isSome) (depth : Nat)
    {names names' : List String}
    (hnames : ∀ name, names.contains name = names'.contains name ∨
      names.contains name = false ∧ name ∈ extra) (node : Node) :
    (unselected extra).CastAt (castNode context depth) (castNode context depth) names names'
      node := by
  have hcons : ∀ {names names' : List String}, (∀ name,
      names.contains name = names'.contains name ∨ names.contains name = false ∧ name ∈ extra) →
      ∀ other name, (other :: names).contains name = (other :: names').contains name ∨
        (other :: names).contains name = false ∧ name ∈ extra := by
    intro names names' hnames other name
    rw [List.contains_cons, List.contains_cons]
    rcases hnames name with heq | ⟨hnot, hmem⟩
    · exact .inl (by rw [heq])
    · cases hother : name == other with
      | true => exact .inl rfl
      | false => exact .inr ⟨by rw [hnot]; rfl, hmem⟩
  induction depth, node using context.registry.node_induction generalizing names names' with
  | zero node =>
    rintro v p _ rfl
    exact .stop _
  | unknown depth name hget =>
    rintro v p _ rfl
    rw [castNode_unknown hget, castNode_unknown hget]
    exact .fail rfl _ _
  | named depth name s hget ih =>
    rintro v p _ rfl
    rw [castNode_named hget, castNode_named hget]
    exact ih (hcons hnames name) v p p rfl
  | link depth name other hget ih =>
    rintro v p _ rfl
    rw [castNode_link hget, castNode_link hget]
    exact ih (hcons hnames name) v p p rfl
  | schema depth s ih =>
    have hcheck : ∀ c, (unselected extra).FoundAt
        (Validation.checkNode context.registry context.limit depth)
        (Validation.checkNode context.registry context.limit depth) c := by
      rintro c v p _ rfl
      exact .refl (fun is => List.forall₂_same.2 fun i _ => ⟨rfl, rfl, rfl⟩) _
    rintro v p _ rfl
    refine Leeway.castSchema rfl (fun c _ => ih c hnames) (fun c _ => hcheck c) (hcheck _) rfl v ?_
    refine Leeway.dispatch rfl (fun name => ih (.ref name) hnames) (fun name => ?_) s v
    refine (hnames name).imp_right fun ⟨hnot, hmem⟩ => ⟨hnot, hextra name hmem, ?_⟩
    exact fun property tag location => List.contains_iff_mem.2 hmem

end Casting

end DataSchema
