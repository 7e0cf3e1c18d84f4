import DataSchema.Proofs.CastLeeway
import DataSchema.Proofs.CheckStops
import DataSchema.Proofs.Descent

set_option autoImplicit false

/-!
# Relations that casts keep

What a cast makes of a value is made of the parts of that value: by converting scalars, by casting
items and properties one by one, by reading objects as mappings, and by putting such mappings over
each other. A relation between values that allows for these steps therefore holds between every
value and what a cast makes of it, as long as no records are built.

## Main definitions

* `DataSchema.Casting.IsKept` — relations that the steps of a cast keep.
* `DataSchema.Registry.BuildsNoRecords` — nodes that lead to no schema with a record type.

## Main results

* `DataSchema.Entries.mem_merge` — where the entries of a union come from.
* `DataSchema.Casting.castOwn_kept`, `DataSchema.Casting.castAllOf_kept`,
  `DataSchema.Casting.castAlternative_kept` — the shape of a schema, its members, its alternatives.
* `DataSchema.Casting.castNode_kept` — casts by nodes, at every depth.
-/

namespace DataSchema

/-! ## Entries put over others -/

namespace Entries

/-- An entry after a value has been set was there before, or holds that value under the key or
under one that is the same. -/
lemma mem_put {es : Entries} {k v : Value} {e : Value × Value} (h : e ∈ es.put k v) :
    e ∈ es ∨ e.2 = v ∧ (e.1 = k ∨ e.1.sameKey k = true ∧ e.1 ∈ es.map Prod.fst) := by
  induction es with
  | nil =>
    obtain rfl := List.mem_singleton.1 h
    exact .inr ⟨rfl, .inl rfl⟩
  | cons e' es ih =>
    unfold put at h
    split at h
    next hkey =>
      rcases List.mem_cons.1 h with rfl | h
      · exact .inr ⟨rfl, .inr ⟨hkey, List.mem_cons_self⟩⟩
      · exact .inl (List.mem_cons_of_mem e' h)
    next =>
      rcases List.mem_cons.1 h with rfl | h
      · exact .inl List.mem_cons_self
      · refine (ih h).imp (fun h => List.mem_cons_of_mem e' h) fun ⟨hv, hk⟩ => ⟨hv, ?_⟩
        exact hk.imp_right fun ⟨hsame, hmem⟩ => ⟨hsame, List.mem_cons_of_mem _ hmem⟩

/-- **Where the entries of a union come from**: they were there before, or hold a value that was
put over, under its key or under one that is the same. -/
lemma mem_merge {es fs : Entries} {e : Value × Value} (h : e ∈ Entries.merge es fs) :
    e ∈ es ∨ ∃ f ∈ fs, e.2 = f.2 ∧
      (e.1 = f.1 ∨ e.1.sameKey f.1 = true ∧ (e.1 ∈ es.map Prod.fst ∨ e.1 ∈ fs.map Prod.fst)) := by
  induction fs generalizing es with
  | nil => exact .inl h
  | cons f fs ih =>
    have hkeys : ∀ k ∈ (es.put f.1 f.2).map Prod.fst,
        k ∈ es.map Prod.fst ∨ k ∈ (f :: fs).map Prod.fst := by
      intro k hk
      obtain ⟨e', he', rfl⟩ := List.mem_map.1 hk
      rcases mem_put he' with he' | ⟨-, hkey | ⟨-, hkey⟩⟩
      · exact .inl (List.mem_map_of_mem he')
      · exact .inr (by simp [hkey])
      · exact .inl hkey
    rcases ih h with h | ⟨g, hg, hvalue, hkey⟩
    · rcases mem_put h with h | ⟨hvalue, hkey⟩
      · exact .inl h
      · refine .inr ⟨f, List.mem_cons_self, hvalue, hkey.imp_right ?_⟩
        exact fun ⟨hsame, hmem⟩ => ⟨hsame, .inl hmem⟩
    · refine .inr ⟨g, List.mem_cons_of_mem f hg, hvalue, hkey.imp_right ?_⟩
      rintro ⟨hsame, hmem | hmem⟩
      · exact ⟨hsame, hkeys _ hmem⟩
      · exact ⟨hsame, .inr (List.mem_cons_of_mem _ hmem)⟩

end Entries

/-! ## Scalars -/

/-- Whether a value has no parts that a cast looks at: null, a truth value, a number, a text or a
date. -/
def Value.isScalar : Value → Bool
  | .null | .bool _ | .int _ | .float _ | .str _ | .date _ | .dateTime _ => true
  | .list _ | .tuple _ | .mapping _ | .record .. | .openRecord .. => false

/-- A scalar has no items. -/
lemma Value.items?_of_isScalar {v : Value} (h : v.isScalar = true) : v.items? = none := by
  cases v <;> first | rfl | cases h

/-- A scalar has no properties. -/
lemma Value.objectView?_of_isScalar {v : Value} (h : v.isScalar = true) (required : List Value) :
    v.objectView? required = none := by
  cases v <;> first | rfl | cases h

namespace Casting

variable {s : Schema} {v r : Value} {path : Path}

/-- A type keeps a value, or makes a scalar of a scalar. -/
lemma ConvertsByType.scalar (h : ConvertsByType s v r) :
    r = v ∨ v.isScalar = true ∧ r.isScalar = true := by
  cases h with
  | unasked | text | number | double | integer | boolean => exact .inl rfl
  | numberText | integerText | wholeDouble | booleanText => exact .inr ⟨rfl, rfl⟩

/-- **A conversion** keeps a value, or makes a scalar of a scalar. -/
lemma castScalar_scalar (h : (castScalar s v path).outcome = .ok r) :
    r = v ∨ v.isScalar = true ∧ r.isScalar = true := by
  cases castScalar_outcome_ok.1 h with
  | temporal => exact .inl rfl
  | timestamp | day => exact .inr ⟨rfl, rfl⟩
  | typed _ hr => exact hr.scalar

/-! ## Relations -/

/-- A relation between values and what becomes of them is kept by the steps of a cast. -/
structure IsKept (R : Value → Value → Prop) : Prop where
  /-- A value may stay as it is. -/
  refl : ∀ v, R v v
  /-- Steps may follow each other. -/
  trans : ∀ {u v w}, R u v → R v w → R u w
  /-- Scalars may be converted. -/
  scalar : ∀ {v r}, v.isScalar = true → r.isScalar = true → R v r
  /-- The items of an array may be cast one by one. -/
  items : ∀ {v vs rs}, v.items? = some vs → vs.length = rs.length →
    (∀ (i : Nat) x y, vs[i]? = some x → rs[i]? = some y → R x y) → R v (.list rs)
  /-- Some of the properties of an object may be cast. -/
  entries : ∀ {v required es fs}, v.objectView? required = some es →
    (∀ f ∈ fs, ∃ e ∈ es, e.1 = f.1 ∧ R e.2 f.2) → R v (.mapping fs)
  /-- Mappings that became of a value may be put over each other. -/
  merge : ∀ {v es fs}, R v (.mapping es) → R v (.mapping fs) →
    R v (.mapping (Entries.merge es fs))

/-- Any value may become any other. -/
lemma isKept_true : IsKept fun _ _ => True := by
  constructor <;> intros <;> trivial

namespace IsKept

variable {R : Value → Value → Prop} {w : Value}

/-- An object may be read as a mapping. -/
lemma view (hR : IsKept R) (hv : v.isObject = true) : R v (.mapping v.entries) := by
  have hview : v.objectView? [] = some v.entries := by
    unfold Value.entries
    cases v <;> first | rfl | cases hv
  exact hR.entries hview fun e he => ⟨e, he, rfl, hR.refl e.2⟩

/-- Nothing may be left of the properties of an object. -/
lemma empty (hR : IsKept R) (hv : v.isObject = true) : R v (.mapping []) := by
  have hview : v.objectView? [] = some v.entries := by
    unfold Value.entries
    cases v <;> first | rfl | cases hv
  exact hR.entries hview (by simp)

/-- What became of an object may be read as a mapping, whether it is an object or not. -/
lemma entries_of (hR : IsKept R) (hv : v.isObject = true) (h : R v w) :
    R v (.mapping w.entries) := by
  by_cases hw : w.isObject = true
  · exact hR.trans h (hR.view hw)
  · have hnone : w.entries = [] := by
      unfold Value.entries
      cases w <;> first | rfl | exact absurd rfl hw
    rw [hnone]
    exact hR.empty hv

/-- What became of an object may be put over it. -/
lemma overlay (hR : IsKept R) (hv : v.isObject = true) (h : R v w) :
    R v (.mapping (overlay v w)) :=
  hR.merge (hR.view hv) (hR.entries_of hv h)

end IsKept

/-! ## The shape of a schema itself -/

section

variable {R : Value → Value → Prop} (hR : IsKept R) {child : NodeCaster} {check : NodeChecker}
  {active : List String}

/-- What becomes of declared properties is what their nodes make of them. -/
lemma mem_castDeclared {data result : Entries} {ps : List (String × Node)}
    (h : (castDeclared child data path active ps).outcome = .ok result) {e : Value × Value}
    (he : e ∈ result) : ∃ p ∈ ps, ∃ v, e.1 = .str p.1 ∧ data.get? (.str p.1) = some v ∧
      (child p.2 v (path ++ [.str p.1]) active).outcome = .ok e.2 := by
  induction ps generalizing result with
  | nil =>
    obtain rfl := Except.ok.inj h
    cases he
  | cons p ps ih =>
    have hrest : ∀ others, (castDeclared child data path active ps).outcome = .ok others →
        e ∈ others → ∃ p' ∈ p :: ps, ∃ v, e.1 = .str p'.1 ∧ data.get? (.str p'.1) = some v ∧
          (child p'.2 v (path ++ [.str p'.1]) active).outcome = .ok e.2 := by
      intro others hothers he
      obtain ⟨p', hp', hfound⟩ := ih hothers he
      exact ⟨p', List.mem_cons_of_mem p hp', hfound⟩
    unfold castDeclared at h
    split at h
    next => exact hrest result h he
    next v hv =>
      obtain ⟨r, hr, h⟩ := bind_outcome_ok.1 h
      obtain ⟨others, hothers, h⟩ := bind_outcome_ok.1 h
      obtain rfl := Except.ok.inj h
      rcases List.mem_cons.1 he with rfl | he
      · exact ⟨p, List.mem_cons_self, v, rfl, hv, hr⟩
      · exact hrest others hothers he

/-- What becomes of undeclared properties is these themselves, or what the node for them makes of
them. -/
lemma mem_castExtra {extra result : Entries}
    (h : (castExtra child s extra path active).outcome = .ok result) {e : Value × Value}
    (he : e ∈ result) : e ∈ extra ∨ ∃ node v, s.additional = .schema node ∧ (e.1, v) ∈ extra ∧
      (child node v (path ++ [e.1]) active).outcome = .ok e.2 := by
  rcases castExtra_outcome_ok.1 h with ⟨-, rfl⟩ | ⟨node, hnode, -⟩
  · split at he
    · exact .inl he
    · cases he
  · obtain ⟨v, hv, hcast⟩ := castExtra_schema hnode h e he
    exact .inr ⟨node, v, hnode, hv, hcast⟩

include hR

section

variable (hchild : ∀ c ∈ s.children, ∀ v path r,
  (child c v path active).outcome = .ok r → R v r)

include hchild

/-- The cast of an object keeps the relation. -/
lemma castObject_kept (h : (castObject child s v path active).outcome = .ok r) : R v r := by
  obtain ⟨data, declared, others, hview, -, -, hdeclared, hothers, -, -, rfl⟩ :=
    castObject_outcome_ok.1 h
  refine hR.entries hview fun f hf => ?_
  rcases List.mem_append.1 hf with hf | hf
  · obtain ⟨p, hp, w, hkey, hw, hcast⟩ := mem_castDeclared hdeclared hf
    have hnode := Keywords.mem_children_of_part (Keywords.mem_partNodes_declared hp)
    exact ⟨(.str p.1, w), Entries.mem_of_get? hw, hkey.symm, hchild _ hnode _ _ _ hcast⟩
  · have hdata : ∀ {e : Value × Value}, e ∈ Validation.undeclared s data → e ∈ data :=
      fun he => (List.mem_filter.1 he).1
    rcases mem_castExtra hothers hf with hf | ⟨node, w, hadditional, hw, hcast⟩
    · exact ⟨f, hdata hf, rfl, hR.refl f.2⟩
    · have hnode := Keywords.mem_children_of_part (Keywords.mem_partNodes_additional hadditional)
      exact ⟨(f.1, w), hdata hw, rfl, hchild _ hnode _ _ _ hcast⟩

/-- The cast of an array keeps the relation. -/
lemma castArray_kept (h : (castArray child s v path active).outcome = .ok r) : R v r := by
  obtain ⟨vs, rs, hitems, hcast, -, -, -, rfl⟩ := castArray_outcome_ok.1 h
  refine hR.items hitems (castItems_length hcast).symm fun i x y hx hy => ?_
  cases hnode : s.items with
  | none =>
    unfold castItems at hcast
    rw [hnode] at hcast
    obtain rfl := Except.ok.inj hcast
    obtain rfl : x = y := Option.some.inj (hx.symm.trans hy)
    exact hR.refl x
  | some node =>
    obtain ⟨x', hx', hxy⟩ := castItems_getElem? hnode hcast hy
    obtain rfl : x = x' := Option.some.inj (hx.symm.trans hx')
    exact hchild _ (Keywords.mem_children_of_part (Keywords.mem_partNodes_items hnode)) _ _ _ hxy

/-- **The shape of a schema** keeps the relation. -/
lemma castOwn_kept (h : (castOwn child s v path active).outcome = .ok r) : R v r := by
  rcases castOwn_outcome_ok.1 h with ⟨-, h⟩ | ⟨-, -, h⟩ | ⟨-, -, h, -⟩
  · exact castObject_kept hR hchild h
  · exact castArray_kept hR hchild h
  · rcases castScalar_scalar h with rfl | ⟨hv, hr⟩
    · exact hR.refl _
    · exact hR.scalar hv hr

end

/-! ## Composition -/

/-- The members of a composition keep the relation to an object, given that what was made before
and what they see keep it. -/
lemma castMembers_kept (hv : v.isObject = true) {nodes : List Node}
    (hchild : ∀ c ∈ nodes, ∀ v path r, (child c v path active).outcome = .ok r → R v r)
    {merged source : Entries} (hmerged : R v (.mapping merged)) (hsource : R v (.mapping source))
    (h : (castMembers child path active merged source nodes).outcome = .ok r) : R v r := by
  induction nodes generalizing merged source with
  | nil =>
    obtain rfl := Except.ok.inj h
    exact hmerged
  | cons c nodes ih =>
    unfold castMembers at h
    obtain ⟨part, hpart, h⟩ := bind_outcome_ok.1 h
    split at h
    next =>
      have hkept : R v part := hR.trans hsource (hchild c List.mem_cons_self _ _ _ hpart)
      have hentries := hR.entries_of hv hkept
      refine ih (fun c' hc' => hchild c' (List.mem_cons_of_mem c hc')) ?_ ?_ h
      · exact hR.merge hmerged hentries
      · exact hR.merge hsource hentries
    next => cases h

/-- Members in turn keep the relation to any other value. -/
lemma castInTurn_kept {nodes : List Node}
    (hchild : ∀ c ∈ nodes, ∀ v path r, (child c v path active).outcome = .ok r → R v r)
    (h : (castInTurn child path active v nodes).outcome = .ok r) : R v r := by
  induction nodes generalizing v with
  | nil =>
    obtain rfl := Except.ok.inj h
    exact hR.refl _
  | cons c nodes ih =>
    unfold castInTurn at h
    obtain ⟨next, hnext, h⟩ := bind_outcome_ok.1 h
    refine hR.trans (hchild c List.mem_cons_self _ _ _ hnext) ?_
    exact ih (fun c' hc' => hchild c' (List.mem_cons_of_mem c hc')) h

variable (hchild : ∀ c ∈ s.children, ∀ v path r,
  (child c v path active).outcome = .ok r → R v r)

include hchild

/-- **All members of a composition** keep the relation. -/
lemma castAllOf_kept {own : Value} (hown : R v own)
    (h : (castAllOf child s v own path active).outcome = .ok r) : R v r := by
  have hmembers : ∀ c ∈ s.allOfList, ∀ v path r,
      (child c v path active).outcome = .ok r → R v r := fun c hc =>
    hchild c (Keywords.mem_children_of_same (Keywords.mem_sameNodes_allOf hc))
  unfold castAllOf at h
  split at h
  · obtain rfl := Except.ok.inj h
    exact hown
  · split at h
    next hv =>
      have hmerged : R v (.mapping (if s.properties.isSome then own.entries else [])) := by
        split
        · exact hR.entries_of hv hown
        · exact hR.empty hv
      exact castMembers_kept hR hv hmembers hmerged (hR.overlay hv hown) h
    next => exact hR.trans hown (castInTurn_kept hR hmembers h)

/-- **Alternatives** keep the relation. -/
lemma castAlternative_kept {own : Value} (hown : R v own)
    (h : (castAlternative child check s v own path active).outcome = .ok r) : R v r := by
  cases hsome : s.hasAlternatives with
  | false =>
    rw [castAlternative_eq_pure hsome] at h
    obtain rfl := Except.ok.inj h
    exact hown
  | true =>
    obtain ⟨c, hc, chosen, hcast, -, rfl⟩ := castAlternative_outcome_ok hsome h
    have hnode : c ∈ s.children := Leeway.mem_children_of_alternatives hc
    have hsource : R v (if v.isObject then .mapping (overlay v own) else own) := by
      split
      next hv => exact hR.overlay hv hown
      next => exact hown
    have hchosen : R v chosen := hR.trans hsource (hchild c hnode _ _ _ hcast)
    unfold combine
    split
    · exact hchosen
    · split
      next hobjects =>
        rw [Bool.and_eq_true] at hobjects
        have hbase := hR.trans hown (hR.view hobjects.1)
        exact hR.merge hbase (hR.trans hchosen (hR.view hobjects.2))
      next => exact hchosen

/-! ## Schemas -/

/-- **A schema that selects no other** and builds no record keeps the relation. -/
lemma castComposed_kept {context : CastContext} (htarget : s.targetType = .absent)
    (h : (castComposed context child check s v path active).outcome = .ok r) : R v r := by
  obtain ⟨own, all, result, hown, hall, hresult, -, hmaterial⟩ := castComposed_outcome_ok.1 h
  obtain rfl := materialize_outcome_ok htarget hmaterial
  have hkept : R v own := castOwn_kept hR hchild hown
  exact castAlternative_kept hR hchild (castAllOf_kept hR hchild hkept hall) hresult

end

/-- What a discriminator selects by the tag of a mapping is a schema of the registry that is not open,
and its cast is the result. -/
lemma dispatch_outcome_ok {registry : Registry} {child : NodeCaster} {active : List String}
    (h : (dispatch child registry s v path active).outcome = .ok (some r)) :
    ∃ d es tag target, s.discriminator = some d ∧ v = .mapping es ∧
      Entries.get? es (.str d.propertyName) = some tag ∧ d.target? tag = some target ∧
        active.contains target = false ∧ (registry.get? target).isSome = true ∧
          (child (.ref target) v path active).outcome = .ok r := by
  unfold dispatch at h
  split at h
  next d es hd =>
    dsimp only at h
    split at h
    next => cases h
    next tag htag =>
      split at h
      next => cases h
      next target htarget =>
        split at h
        next => cases h
        next hopen =>
          split at h
          next => cases h
          next hsome =>
            obtain ⟨_, -, h⟩ := bind_outcome_ok.1 h
            obtain ⟨result, hresult, h⟩ := bind_outcome_ok.1 h
            obtain rfl := Option.some.inj (Except.ok.inj h)
            refine ⟨d, es, tag, target, hd, rfl, htag, htarget, by simpa using hopen, ?_, hresult⟩
            cases hget : registry.get? target <;> simp_all
  next => cases h

/-- What a schema makes of a value: null of null, what the schema that it selects makes of it, or
what it makes itself. -/
lemma castSchema_cases {context : CastContext} {child : NodeCaster} {check : NodeChecker}
    {active : List String}
    (h : (castSchema context child check s v path active).outcome = .ok r) :
    r = v ∨ (s.discriminator.isSome = true ∧ ∃ target,
        (context.registry.get? target).isSome = true ∧
          (child (.ref target) v path active).outcome = .ok r) ∨
      (castComposed context child check s v path active).outcome = .ok r := by
  unfold castSchema at h
  split at h
  next hnull =>
    obtain rfl := Except.ok.inj h
    rw [Bool.and_eq_true] at hnull
    left
    cases v <;> first | rfl | cases hnull.1
  next =>
    split at h
    next => cases h
    next =>
      obtain ⟨selected?, hselected, h⟩ := bind_outcome_ok.1 h
      cases selected? with
      | none => exact .inr (.inr h)
      | some result =>
        obtain rfl := Except.ok.inj h
        obtain ⟨d, -, -, target, hd, -, -, -, -, htarget, hcast⟩ := dispatch_outcome_ok hselected
        exact .inr (.inl ⟨by rw [hd]; rfl, target, htarget, hcast⟩)

end Casting

/-! ## Nodes -/

/-- No schema that a node leads to, along all that a cast can go on with, asks for records. -/
def Registry.BuildsNoRecords (registry : Registry) (node : Node) : Prop :=
  ∀ s, registry.Reaches registry.steps node s → s.targetType = .absent

namespace Registry.BuildsNoRecords

variable {registry : Registry} {s : Schema}

/-- Where a reference builds no records, its target does not. -/
lemma ref {name : String} {node : Node} (h : registry.BuildsNoRecords (.ref name))
    (hget : registry.get? name = some node) : registry.BuildsNoRecords node :=
  fun t ht => h t (.ref hget ht)

/-- Where a schema builds no records, the nodes below it do not. -/
lemma below {c : Node} (h : registry.BuildsNoRecords (.schema s)) (hc : c ∈ s.children) :
    registry.BuildsNoRecords c :=
  fun t ht => h t (.child (List.mem_append_left _ hc) ht)

/-- Where a schema builds no records, what it selects does not. -/
lemma selected {name : String} (h : registry.BuildsNoRecords (.schema s))
    (hsome : s.discriminator.isSome = true) (hname : (registry.get? name).isSome = true) :
    registry.BuildsNoRecords (.ref name) :=
  fun t ht => h t (.child (registry.ref_mem_steps hsome hname) ht)

/-- A node builds no records if it is one of several that lead to no others, of which none asks for
records. -/
lemma of_list (nodes : List Node)
    (href : ∀ name, .ref name ∈ nodes → ∀ target ∈ registry.get? name, target ∈ nodes)
    (hschema : ∀ t, .schema t ∈ nodes → registry.steps t ⊆ nodes ∧ t.targetType = .absent)
    {node : Node} (hnode : node ∈ nodes) : registry.BuildsNoRecords node := by
  intro t ht
  refine (hschema t (ht.of_closed (Q := fun node => node ∈ nodes) ?_ ?_ hnode)).2
  · exact fun name target hname hget => href name hname target hget
  · exact fun t c ht hc => (hschema t ht).1 hc

end Registry.BuildsNoRecords

namespace Casting

/-- **Casts keep the relation**: between a value and what a node makes of it, at every depth, if no
records are built.

**Proof sketch.** Induction on the depth. A name makes what its target makes, a schema that selects
another makes what that one makes, and every other schema casts by steps that keep the relation. -/
theorem castNode_kept {R : Value → Value → Prop} (hR : IsKept R) {context : CastContext}
    {depth : Nat} {node : Node} (hnode : context.registry.BuildsNoRecords node) {v r : Value}
    {path : Path} {active : List String}
    (h : (castNode context depth node v path active).outcome = .ok r) : R v r := by
  induction depth, node using context.registry.node_induction generalizing v r path active with
  | zero node => cases h
  | unknown depth name hget =>
    rw [castNode_unknown hget] at h
    cases h
  | named depth name s hget ih =>
    rw [castNode_named hget] at h
    exact ih (hnode.ref hget) h
  | link depth name other hget ih =>
    rw [castNode_link hget] at h
    exact ih (hnode.ref hget) h
  | schema depth s ih =>
    rcases castSchema_cases h with rfl | ⟨hsome, target, htarget, hcast⟩ | hcast
    · exact hR.refl _
    · exact ih (.ref target) (hnode.selected hsome htarget) hcast
    · refine castComposed_kept hR (fun c hc v path r hr => ?_) (hnode s (.here s)) hcast
      exact ih c (hnode.below hc) hr

end Casting

end DataSchema
