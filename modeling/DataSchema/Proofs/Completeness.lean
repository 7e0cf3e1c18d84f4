import DataSchema.Proofs.CastStops
import DataSchema.Proofs.Layers

set_option autoImplicit false

/-!
# Completeness of casts

A JSON value that conforms is cast, if every schema on the way is of one of four kinds: one that is
not composed, and whose checks can be repeated on what became of the value; one below which values
are kept; one that does nothing but hand values on, to nodes whose results conform to them; or one
for objects that is composed of layers.

## Main definitions

* `DataSchema.Keywords.OnlyHandsOn` — schemas that do nothing but hand values on.
* `DataSchema.Registry.Completes` — schemas of one of the four kinds.

## Main results

* `DataSchema.Casting.castComposed_accepts_kept`, `DataSchema.Casting.castComposed_accepts_shape`,
  `DataSchema.Casting.castComposed_accepts_handsOn` — casts by schemas of the first three kinds.
* `DataSchema.Casting.castNode_accepts` — casts by nodes, at every depth.
* `DataSchema.cast_of_validate` — casts of whole values.
-/

namespace DataSchema

/-- A schema does nothing but hand values on, to alternatives or to a single member: all else that
it says makes no cast and finds no issue. -/
structure Keywords.OnlyHandsOn (s : Schema) : Prop where
  /-- It casts no object and no array, and makes no dates. -/
  shape : s.type = none ∧ s.properties = none ∧ s.items = none ∧ Casting.asksForDates s = false
  /-- There are alternatives only, or there is one member only. -/
  single : s.allOfList = [] ∧ s.hasAlternatives = true ∨
    (∃ c, s.allOfList = [c]) ∧ s.hasAlternatives = false
  /-- There is nothing that must not match. -/
  notSchema : s.notSchema = none
  /-- The rest of it finds nothing. -/
  rest : ∀ test v, (∀ c ∈ s.allOfList, test c v = true) →
    Conformance.meetsSchema test s.withoutAlternatives v = true

/-- JSON values with certain texts and doubles that conform to a schema are cast by it, if they are
by the nodes below. -/
inductive Registry.Completes (registry : Registry) (T : String → Prop) (F : Binary64 → Prop)
    (s : Schema) : Prop
  /-- The schema is not composed, and its checks can be repeated on what became of the value. -/
  | shape : s.isComposed = false → s.notSchema = none → registry.Repeats T F s →
    registry.Completes T F s
  /-- Below the schema values are kept. -/
  | kept : registry.Keeps T F (.schema s) → registry.Completes T F s
  /-- The schema only hands values on, to nodes whose results conform to them. -/
  | handsOn : s.OnlyHandsOn →
    (∀ c ∈ s.allOfList ++ Casting.alternatives s, registry.IsSound c ∨ registry.Keeps T F c) →
    registry.Completes T F s
  /-- The schema is composed of layers. -/
  | layers : registry.IsLayered T F s → registry.Completes T F s

/-- Where values are kept, checks can be repeated. -/
lemma Registry.Keeps.repeats {registry : Registry} {T : String → Prop} {F : Binary64 → Prop}
    {s : Schema} (h : registry.Keeps T F (.schema s)) : registry.Repeats T F s where
  dates hasks := by
    rw [h.dates s (.here s)] at hasks
    cases hasks
  whole _ := h.conflates s (.here s)
  few := .inr (h.extra s (.here s))
  unique _ c hc := h.child (Keywords.mem_castNodes_of_part (Keywords.mem_partNodes_items hc))

namespace Casting

open Validation Conformance

variable {T : String → Prop} {F : Binary64 → Prop} {context : CastContext} {depth : Nat}
  {s : Schema} {v own r : Value} {path : Path} {active : List String}

/-! ## Composed values -/

/-- What conforms to a schema conforms to it without its alternatives. -/
lemma meetsSchema_withoutAlternatives {test : NodeTest} (h : meetsSchema test s v = true) :
    meetsSchema test s.withoutAlternatives v = true := by
  have hrest : meetsKeywords test s v = true →
      meetsKeywords test s.withoutAlternatives v = true := by
    intro hmeets
    simp only [meetsKeywords, meetsComposition, Bool.and_eq_true] at hmeets ⊢
    obtain ⟨hown, ⟨⟨hall, -⟩, -⟩, hnot⟩ := hmeets
    exact ⟨hown, ⟨⟨hall, rfl⟩, rfl⟩, hnot⟩
  simp only [meetsSchema, Bool.or_eq_true, Bool.and_eq_true] at h ⊢
  exact h.imp_right fun hmeets => ⟨hmeets.1, hrest hmeets.2⟩

section

variable {registry : Registry} {limit : Int}
  (hconflates : ∀ t, registry.Reaches Keywords.children (.schema s) t → ∀ x, F x → t.Conflates x)
  (hv : v.IsJsonOf T F) (hmeets : conforms registry (depth + 1) (.schema s) v = true)

include hconflates hv hmeets

/-- Checks by a schema without its alternatives find nothing in what is like a value that
conforms. -/
lemma findsNothing_withoutAlternatives (h : v.Alike r) :
    FindsNothing registry limit depth (.schema s.withoutAlternatives) r := by
  have hrest : ∀ t, registry.Reaches Keywords.children (.schema s.withoutAlternatives) t →
      ∀ x, F x → t.Conflates x := by
    intro t ht
    rcases ht.of_withoutAlternatives fun _ hc => Keywords.mem_children_of_withoutAlternatives hc
      with rfl | ht
    · exact hconflates s (.here s)
    · exact hconflates t ht
  have hwhole : conforms registry (depth + 1) (.schema s.withoutAlternatives) v = true :=
    meetsSchema_withoutAlternatives hmeets
  exact (FindsNothing.of_alike hrest hv hwhole h).mono (Nat.le_succ depth)

variable (hnull : (v.isNull && s.nullable.isTruthy) = false)

include hnull

/-- What is like a value that conforms does not conform to what must not match. -/
lemma refuseMatch_accepts (h : v.Alike r) :
    Accepts (refuseMatch (checkNode registry limit depth) s r path) := by
  unfold refuseMatch
  split
  next => exact .pure ()
  next c hc =>
    refine .bind (.guarded _) fun matching hmatching => ?_
    have hnot : matching = false := by
      have hall := meetsKeywords_of_meetsSchema hnull hmeets
      simp only [meetsKeywords, meetsComposition, Bool.and_eq_true, hc, Option.all_some,
        Bool.not_eq_true'] at hall
      rw [conforms_eq (checkNode_eq_nil registry limit depth) (guarded_outcome_ok.1 hmatching),
        ← conforms_alike depth (fun t ht => hconflates t (.child
          (Keywords.mem_children_of_same (Keywords.mem_sameNodes_not hc)) ht)) v r hv h]
      exact hall.2.2
    rw [hnot]
    exact .pure ()

/-- What is like a value that conforms is accepted as a whole. -/
lemma requireWhole_accepts (h : v.Alike r) :
    Accepts (requireWhole (checkNode registry limit depth) s r path) := by
  rw [requireWhole_eq]
  refine .bind ?_ fun _ _ => refuseMatch_accepts hconflates hv hmeets hnull h
  split
  · exact .require (findsNothing_withoutAlternatives hconflates hv hmeets h path)
  · exact .pure ()

end

/-! ## Objects -/

/-- By the shape of a direct schema an object becomes an object. -/
lemma castOwn_mapping {child : NodeCaster} {es : Entries} (hs : s.IsDirect) (hes : es.Named)
    (h : (castOwn child s (.mapping es) path active).outcome = .ok r) :
    ∃ fs, r = .mapping fs ∧ Entries.Named fs := by
  rcases castOwn_outcome_ok.1 h with ⟨-, h⟩ | ⟨-, -, h⟩ | ⟨-, -, h, -⟩
  · obtain ⟨data, declared, others, hdata, -, -, hdeclared, hothers, -, -, rfl⟩ :=
      castObject_outcome_ok.1 h
    obtain rfl := Option.some.inj hdata
    exact ⟨_, rfl, castObject_named hes hs.names hdeclared hothers⟩
  · obtain ⟨items, result, hitems, -⟩ := castArray_outcome_ok.1 h
    cases hitems
  · cases castScalar_outcome_ok.1 h with
    | temporal => exact ⟨es, rfl, hes⟩
    | typed _ hr =>
      cases hr with
      | unasked => exact ⟨es, rfl, hes⟩

/-- By the members of a composition an object becomes an object, if each makes an object of one. -/
lemma castMembers_mapping {child : NodeCaster} {merged source : Entries} {nodes : List Node}
    (hmerged : merged.Named) (hsource : source.Named)
    (hchild : ∀ c ∈ nodes, ∀ es r, Entries.Named es →
      (child c (.mapping es) path active).outcome = .ok r →
      ∃ fs, r = .mapping fs ∧ Entries.Named fs)
    (h : (castMembers child path active merged source nodes).outcome = .ok r) :
    ∃ fs, r = .mapping fs ∧ Entries.Named fs := by
  induction nodes generalizing merged source with
  | nil =>
    obtain rfl := Except.ok.inj h
    exact ⟨merged, rfl, hmerged⟩
  | cons c cs ih =>
    unfold castMembers at h
    obtain ⟨part, hpart, h⟩ := bind_outcome_ok.1 h
    obtain ⟨fs, rfl, hfs⟩ := hchild c List.mem_cons_self source part hsource hpart
    exact ih (hmerged.merge hfs) (hsource.merge hfs)
      (fun c' hc' => hchild c' (List.mem_cons_of_mem c hc')) h

/-- By the members of a composition an object stays an object, together with what the shape of the
schema has made of it. -/
lemma castAllOf_mapping {child : NodeCaster} {es own : Entries} (hes : es.Named)
    (hown : own.Named)
    (hchild : ∀ c ∈ s.allOfList, ∀ es r, Entries.Named es →
      (child c (.mapping es) path active).outcome = .ok r →
      ∃ fs, r = .mapping fs ∧ Entries.Named fs)
    (h : (castAllOf child s (.mapping es) (.mapping own) path active).outcome = .ok r) :
    ∃ fs, r = .mapping fs ∧ Entries.Named fs := by
  unfold castAllOf at h
  split at h
  next =>
    obtain rfl := Except.ok.inj h
    exact ⟨own, rfl, hown⟩
  next =>
    refine castMembers_mapping ?_ (hes.merge hown) hchild h
    split
    next => exact hown
    next => exact .nil

/-- By alternatives an object stays an object. -/
lemma castAlternative_mapping {child : NodeCaster} {check : NodeChecker} {es own : Entries}
    (hes : es.Named) (hown : own.Named)
    (hchild : ∀ c ∈ alternatives s, ∀ es r, Entries.Named es →
      (child c (.mapping es) path active).outcome = .ok r →
      ∃ fs, r = .mapping fs ∧ Entries.Named fs)
    (h : (castAlternative child check s (.mapping es) (.mapping own) path active).outcome = .ok r) :
    ∃ fs, r = .mapping fs ∧ Entries.Named fs := by
  cases hsome : s.hasAlternatives with
  | false =>
    rw [castAlternative_eq_pure hsome] at h
    obtain rfl := Except.ok.inj h
    exact ⟨own, rfl, hown⟩
  | true =>
    obtain ⟨c, hc, chosen, hchosen, -, rfl⟩ := castAlternative_outcome_ok hsome h
    obtain ⟨fs, rfl, hfs⟩ := hchild c hc _ _ (hes.merge hown) hchosen
    unfold combine
    split
    next => exact ⟨fs, rfl, hfs⟩
    next => exact ⟨_, rfl, hown.merge hfs⟩

/-- **Objects stay objects**: a node makes an object of an object, and names of names.

**Proof sketch.** Induction along the cast. The shape of a schema, its members and its alternatives
make an object of an object one after the other. -/
lemma castNode_mapping {node : Node}
    (hdirect : ∀ t, context.registry.Reaches Keywords.castNodes node t → t.IsDirect)
    {es : Entries} (hes : es.Named)
    (h : (castNode context depth node (.mapping es) path active).outcome = .ok r) :
    ∃ fs, r = .mapping fs ∧ Entries.Named fs := by
  refine castNode_induction (N := Keywords.castNodes) (H := fun s => s.IsDirect)
    (M := fun _ _ v r _ => ∀ es, v = .mapping es → Entries.Named es →
      ∃ fs, r = .mapping fs ∧ Entries.Named fs)
    (fun _ _ _ _ _ _ _ ih => ih) (fun _ _ _ _ _ _ _ ih => ih) ?_ hdirect h es rfl hes
  rintro depth s _ r path active hs hchild h es rfl hes
  rcases (castSchema_outcome_ok hs.discriminator).1 h with ⟨hnull, -⟩ | ⟨-, -, hcast⟩
  · cases hnull
  · obtain ⟨own, all, result, hown, hall, hresult, -, hrecord⟩ := castComposed_outcome_ok.1 hcast
    obtain rfl := materialize_outcome_ok hs.targetType hrecord
    obtain ⟨own, rfl, hownNamed⟩ := castOwn_mapping hs hes hown
    obtain ⟨all, rfl, hallNamed⟩ := castAllOf_mapping hes hownNamed (fun c hc es r hes hr =>
      hchild c (Keywords.mem_castNodes_allOf hc) _ _ _ _ hr es rfl hes) hall
    exact castAlternative_mapping hes hallNamed (fun c hc es r hes hr =>
      hchild c (Keywords.mem_castNodes_alternatives hc) _ _ _ _ hr es rfl hes) hresult

/-! ## Schemas that hand values on -/

/-- A schema that only hands values on keeps a value by its own shape, if it meets the rules for
scalars. -/
lemma castOwn_handsOn {child : NodeCaster} (hs : s.OnlyHandsOn) (v : Value) :
    castOwn child s v path active = (require do
      let scalar ← checkScalar s v path
      return checkEnum s v path ++ scalar) >>= fun _ => pure v := by
  obtain ⟨htype, hproperties, hitems, hdates⟩ := hs.shape
  have hscalar : castScalar s v path = pure v :=
    Converts.castScalar_eq
      (.typed (.inl hdates) (.unasked v (by rw [Keywords.asksForScalar, htype]))) path
  rw [castOwn, castsObject, castsArray, htype, hproperties, hitems, hscalar]
  rfl

/-- A single member of a composition accepts what the composition does, and makes what it makes. -/
lemma castAllOf_single {child : NodeCaster} {c : Node} (hall : s.allOfList = [c])
    (hproperties : s.properties = none) (hv : v.IsJsonOf T F)
    (hmapping : ∀ es, Entries.Named es → ∀ r, (child c (.mapping es) path active).outcome = .ok r →
      ∃ fs, r = .mapping fs ∧ Entries.Named fs) :
    (Accepts (child c v path active) → Accepts (castAllOf child s v v path active)) ∧
      ∀ r, (castAllOf child s v v path active).outcome = .ok r →
        (child c v path active).outcome = .ok r := by
  unfold castAllOf
  rw [hall, hproperties]
  cases hobject : v.isObject with
  | false =>
    show (_ → Accepts (child c v path active >>= pure)) ∧
      ∀ r, (child c v path active >>= pure).outcome = .ok r → _
    rw [bind_pure]
    exact ⟨id, fun _ => id⟩
  | true =>
    obtain ⟨es, rfl⟩ := hv.of_isObject hobject
    have hself : overlay (.mapping es) (.mapping es) = es := hv.named.merge_self
    show (_ → Accepts (castMembers child path active [] (overlay _ _) [c])) ∧
      ∀ r, (castMembers child path active [] (overlay _ _) [c]).outcome = .ok r → _
    rw [hself]
    unfold castMembers
    refine ⟨fun haccepts => .bind haccepts fun part hpart => ?_, fun r hr => ?_⟩
    · obtain ⟨fs, rfl, -⟩ := hmapping es hv.named part hpart
      exact .pure _
    · obtain ⟨part, hpart, hr⟩ := bind_outcome_ok.1 hr
      obtain ⟨fs, rfl, hfs⟩ := hmapping es hv.named part hpart
      have hr' : Value.mapping (Entries.merge [] fs) = r := Except.ok.inj hr
      rw [hfs.nil_merge] at hr'
      rwa [← hr']

/-! ## Nodes -/

/-- **Schemas that keep values accept those that conform.**

**Proof sketch.** What the value becomes, step after step, is like the value. So it conforms where
the value does: to the members, to some alternative, and to the schema as a whole; and what nodes
below accept of the value, they accept of it. -/
lemma castComposed_accepts_kept (hkeep : context.registry.Keeps T F (.schema s))
    (hdirect : ∀ t, context.registry.Reaches Keywords.castNodes (.schema s) t → t.IsDirect)
    (hbelow : AcceptsBelow T F context depth s) (hv : v.IsJsonOf T F)
    (hmeets : conforms context.registry (depth + 1) (.schema s) v = true)
    (hnull : (v.isNull && s.nullable.isTruthy) = false) :
    Accepts (castComposed context (castNode context depth)
      (checkNode context.registry context.limit depth) s v path active) := by
  have hall := meetsKeywords_of_meetsSchema hnull hmeets
  have hkeeps : KeepsBelow T F context depth s := fun c hc w r path active hw hfits hcast =>
    castNode_alike (fun t ht => hdirect t (.child hc ht)) (hkeep.child hc) hw hfits hcast
  have hs := hdirect s (.here s)
  unfold castComposed
  refine .bind (castOwn_accepts hv hall hkeep.repeats hdirect hbelow) fun own hown => ?_
  have halike := hkeeps.own hs hkeep hv (.inl hmeets) hnull hown
  have hmember : ∀ c ∈ s.allOfList, ∀ w, v.Alike w →
      Accepts (castNode context depth c w path active) ∧
        ∀ r, (castNode context depth c w path active).outcome = .ok r → w.Alike r :=
    fun c hc w hw =>
      ⟨hbelow c (Keywords.mem_castNodes_allOf hc) w path active (hw.isJsonOf hv)
        (member_meets hkeep hv hall hc hw), fun r hr =>
        hkeeps.member hkeep hv (.inl hmeets) hnull hc hw hr⟩
  refine .bind (castAllOf_accepts hv halike hmember) fun all hmembers => ?_
  have halike' := castAllOf_alike hv halike (fun c hc w r hw => (hmember c hc w hw).2 r) hmembers
  have hsource := source_alike hv halike'
  refine .bind (castAlternative_accepts fun hsome => ?_) fun result hresult => ?_
  · obtain ⟨c, hc, hconforms⟩ := alternative_meets hall hsome
    have hmem := Keywords.mem_castNodes_alternatives hc
    have hconflates := (hkeep.child hmem).conflates
    refine ⟨c, hc, ?_, fun r hr is his => ?_⟩
    · refine hbelow c hmem _ path active (hsource.isJsonOf hv) ?_
      rwa [← conforms_alike depth hconflates v _ hv hsource]
    · exact FindsNothing.of_alike hconflates hv hconforms
        (hsource.trans (hkeeps.alternative hkeep hv hc hsource hr)) path is his
  · have halike'' := castAlternative_alike hv halike'
      (fun c hc w r hw hr => hkeeps.alternative hkeep hv hc hw hr) hresult
    refine .bind (requireWhole_accepts hkeep.conflates hv hmeets hnull halike'') fun _ _ => ?_
    rw [materialize_eq_pure hs.targetType]
    exact .pure _

/-- **Schemas that are not composed accept values that conform**, if their checks can be
repeated. -/
lemma castComposed_accepts_shape (hplain : s.isComposed = false) (hnot : s.notSchema = none)
    (hrepeats : context.registry.Repeats T F s)
    (hdirect : ∀ t, context.registry.Reaches Keywords.castNodes (.schema s) t → t.IsDirect)
    (hbelow : AcceptsBelow T F context depth s) (hv : v.IsJsonOf T F)
    (hmeets : meetsKeywords (conforms context.registry depth) s v = true) :
    Accepts (castComposed context (castNode context depth)
      (checkNode context.registry context.limit depth) s v path active) := by
  have hs := hdirect s (.here s)
  unfold castComposed
  refine .bind (castOwn_accepts hv hmeets hrepeats hdirect hbelow) fun own _ => ?_
  rw [castAllOf_eq_pure (Keywords.isComposed_eq_false.1 hplain).1, pure_bind,
    castAlternative_eq_pure (Bool.or_eq_false_iff.1 hplain).2, pure_bind, requireWhole_eq, hplain,
    if_neg Bool.false_ne_true, pure_bind, refuseMatch, hnot, pure_bind,
    materialize_eq_pure hs.targetType]
  exact .pure _

/-- Nothing is found in what a node has made of a value that conforms to it, if all its results
conform to it, or if values are kept below it. -/
lemma findsNothing_of_conforms {c : Node}
    (hdirect : ∀ t, context.registry.Reaches Keywords.castNodes c t → t.IsDirect)
    (hfits : context.registry.IsSound c ∨ context.registry.Keeps T F c) (hv : v.IsJsonOf T F)
    (hconforms : conforms context.registry depth c v = true)
    (h : (castNode context depth c v path active).outcome = .ok r) :
    FindsNothing context.registry context.limit depth c r := by
  rcases hfits with hsound | hkeeps
  · exact hsound.findsNothing h
  · exact hkeeps.findsNothing hdirect hv hconforms h

/-- A schema that only hands values on accepts as a whole what its members find nothing in. -/
lemma requireWhole_accepts_handsOn {registry : Registry} {limit : Int} (hs : s.OnlyHandsOn)
    (h : ∀ c ∈ s.allOfList, FindsNothing registry limit depth c r) :
    Accepts (requireWhole (checkNode registry limit depth) s r path) := by
  rw [requireWhole_eq, refuseMatch, hs.notSchema]
  refine .bind ?_ fun _ _ => .pure ()
  split
  next =>
    -- the check of the whole is one step deeper than those of the members
    refine .require (FindsNothing.of_meets (.schema _) (fun below test hdepth htest => ?_) path)
    exact hs.rest test r fun c hc => htest c r ((h c hc).mono (by omega))
  next => exact .pure ()

/-- **Schemas that only hand values on accept those that conform**, if the results of the nodes
below conform to these.

**Proof sketch.** Of what conforms, some alternative accepts the value as it was, or the single
member does. What is chosen in the end need not be that alternative, and nothing more is asked of
it; what the member has made is checked as a whole. -/
lemma castComposed_accepts_handsOn (hs : s.OnlyHandsOn)
    (hdirect : ∀ t, context.registry.Reaches Keywords.castNodes (.schema s) t → t.IsDirect)
    (hbelow : AcceptsBelow T F context depth s)
    (hfits : ∀ c ∈ s.allOfList ++ alternatives s,
      context.registry.IsSound c ∨ context.registry.Keeps T F c)
    (hv : v.IsJsonOf T F)
    (hmeets : meetsKeywords (conforms context.registry depth) s v = true) :
    Accepts (castComposed context (castNode context depth)
      (checkNode context.registry context.limit depth) s v path active) := by
  have htarget := (hdirect s (.here s)).targetType
  have hkeywords := hmeets
  simp only [meetsKeywords, meetsComposition, Bool.and_eq_true] at hkeywords
  obtain ⟨⟨⟨⟨⟨-, henum⟩, hscalar⟩, -⟩, -⟩, ⟨⟨hmembers, -⟩, -⟩, -⟩ := hkeywords
  unfold castComposed
  rw [castOwn_handsOn hs]
  refine .bind (.bind (requireScalar_accepts henum hscalar) fun _ _ => .pure v) fun own hown => ?_
  obtain ⟨_, -, hown⟩ := bind_outcome_ok.1 hown
  obtain rfl := Except.ok.inj hown
  rcases hs.single with ⟨hall, -⟩ | ⟨⟨c, hall⟩, hnone⟩
  · rw [castAllOf_eq_pure hall, pure_bind]
    refine .bind (castAlternative_accepts fun hsome => ?_) fun result _ => ?_
    · obtain ⟨c, hc, hconforms⟩ := alternative_meets hmeets hsome
      have hmem := Keywords.mem_castNodes_alternatives hc
      rw [source_self hv]
      refine ⟨c, hc, hbelow c hmem v path active hv hconforms, fun r hr => ?_⟩
      exact findsNothing_of_conforms (fun t ht => hdirect t (.child hmem ht))
        (hfits c (List.mem_append_right _ hc)) hv hconforms hr path
    · rw [materialize_eq_pure htarget]
      refine .bind (requireWhole_accepts_handsOn hs fun c hc => ?_) fun _ _ => .pure _
      rw [hall] at hc
      cases hc
  · have hc : c ∈ s.allOfList := by simp [hall]
    have hmem := Keywords.mem_castNodes_allOf hc
    have hdirect' := fun t ht => hdirect t (.child hmem ht)
    have hconforms := List.all_eq_true.1 hmembers c hc
    have hmapping : ∀ es, Entries.Named es → ∀ r,
        (castNode context depth c (.mapping es) path active).outcome = .ok r →
          ∃ fs, r = .mapping fs ∧ Entries.Named fs := fun es hes r => castNode_mapping hdirect' hes
    have hsingle := castAllOf_single hall hs.shape.2.1 hv hmapping
    refine .bind (hsingle.1 (hbelow c hmem v path active hv hconforms)) fun result hresult => ?_
    rw [castAlternative_eq_pure hnone, pure_bind, materialize_eq_pure htarget]
    refine .bind (requireWhole_accepts_handsOn hs fun c' hc' => ?_) fun _ _ => .pure _
    obtain rfl : c' = c := by simpa [hall] using hc'
    exact findsNothing_of_conforms hdirect' (hfits c' (List.mem_append_left _ hc)) hv hconforms
      (hsingle.2 result hresult)

/-- **A schema accepts what conforms to it**, if it is of one of the four kinds and the nodes below
it accept what conforms to them, those below its layers a step deeper. -/
lemma castSchema_accepts
    (hdirect : ∀ t, context.registry.Reaches Keywords.castNodes (.schema s) t → t.IsDirect)
    (hs : context.registry.Completes T F s) (hbelow : AcceptsBelow T F context depth s)
    (hlayers : ∀ c ∈ s.allOfList ++ alternatives s, ∀ m, context.registry.Stands c m →
      ∀ below < depth, AcceptsBelow T F context below m)
    (hv : v.IsJsonOf T F) (hmeets : conforms context.registry (depth + 1) (.schema s) v = true) :
    Accepts (castSchema context (castNode context depth)
      (checkNode context.registry context.limit depth) s v path active) := by
  unfold castSchema
  split
  next => exact .pure _
  next hnull =>
    have hnull := eq_false_of_ne_true hnull
    have hkeywords := meetsKeywords_of_meetsSchema hnull hmeets
    split
    next htyped =>
      rw [DataSchema.conforms, meetsSchema, hnull, htyped] at hmeets
      cases hmeets
    next =>
      rw [dispatch_eq_none (hdirect s (.here s)).discriminator, pure_bind]
      cases hs with
      | shape hplain hnot hrepeats =>
        exact castComposed_accepts_shape hplain hnot hrepeats hdirect hbelow hv hkeywords
      | kept hkeep => exact castComposed_accepts_kept hkeep hdirect hbelow hv hmeets hnull
      | handsOn honly hfits =>
        exact castComposed_accepts_handsOn honly hdirect hbelow hfits hv hkeywords
      | layers hlayered =>
        exact castComposed_accepts_layers hlayered hdirect hbelow hlayers hv hkeywords

/-- **What conforms is accepted**, at every depth, if all schemas that take part in the cast are of
one of the four kinds.

**Proof sketch.** Induction on the depth. A reference hands on to its target; a schema hands parts
of a value that conforms, and values like it, to nodes that they conform to. -/
theorem castNode_accepts (context : CastContext) (depth : Nat) {node : Node}
    (hdirect : ∀ s, context.registry.Reaches Keywords.castNodes node s → s.IsDirect)
    (hs : ∀ s, context.registry.Reaches Keywords.castNodes node s →
      context.registry.Completes T F s) {v : Value} (path : Path) (active : List String)
    (hv : v.IsJsonOf T F) (hmeets : conforms context.registry depth node v = true) :
    Accepts (castNode context depth node v path active) := by
  -- not on the depth below alone: the parts of layers are reached two steps down
  induction depth using Nat.strong_induction_on generalizing node v path active with
  | _ depth ih =>
  cases depth with
  | zero => cases hmeets
  | succ depth =>
    have hschema : ∀ s active,
        (∀ t, context.registry.Reaches Keywords.castNodes (.schema s) t → t.IsDirect) →
        (∀ t, context.registry.Reaches Keywords.castNodes (.schema s) t →
          context.registry.Completes T F t) →
        conforms context.registry (depth + 1) (.schema s) v = true →
        Accepts (castNode context (depth + 1) (.schema s) v path active) := by
      intro s active hdirect hs hmeets
      have hbelow : AcceptsBelow T F context depth s := fun c hc w q active hw =>
        ih depth (Nat.lt_succ_self depth) (fun t ht => hdirect t (.child hc ht))
          (fun t ht => hs t (.child hc ht)) q active hw
      refine castSchema_accepts hdirect (hs s (.here s)) hbelow
        (fun c hc m hm below hlt d hd w q active hw => ?_) hv hmeets
      have hmem : c ∈ s.castNodes := (List.mem_append.1 hc).elim
        Keywords.mem_castNodes_allOf Keywords.mem_castNodes_alternatives
      exact ih below (by omega)
        (fun t ht => hdirect t (.child hmem (hm.reaches (.child hd ht))))
        (fun t ht => hs t (.child hmem (hm.reaches (.child hd ht)))) q active hw
    cases node with
    | schema s => exact hschema s active hdirect hs hmeets
    | ref name =>
      cases hget : context.registry.get? name with
      | none =>
        rw [DataSchema.conforms, hget] at hmeets
        cases hmeets
      | some target =>
        have hdirect' := fun t ht => hdirect t (.ref hget ht)
        have hs' := fun t ht => hs t (.ref hget ht)
        rw [DataSchema.conforms, hget] at hmeets
        cases target with
        | schema s =>
          rw [castNode_named hget]
          exact hschema s _ hdirect' hs' hmeets
        | ref other =>
          rw [castNode_link hget]
          exact ih depth (Nat.lt_succ_self depth) hdirect' hs' path _ hv hmeets

end Casting

/-! ## Whole values -/

/-- **Conforming values are cast.** If all schemas that take part in a cast are direct and of one of
the four kinds, then a JSON value that validates is cast, unless the cast stops. Over well-typed
schemas it stops at the depth guard alone, or for a reason for which some value escapes one of the
schemas. -/
theorem cast_of_validate {context : CastContext} {node : Node} {T : String → Prop}
    {F : Binary64 → Prop}
    (hdirect : ∀ s, context.registry.Reaches Keywords.castNodes node s → s.IsDirect)
    (hs : ∀ s, context.registry.Reaches Keywords.castNodes node s →
      context.registry.Completes T F s) {v : Value} (hv : v.IsJsonOf T F)
    (hvalid : validate context.registry node v context.limit = .ok []) :
    ((∃ r, (cast context node v).outcome = .ok (.ok r)) ∨
        ∃ f, (cast context node v).outcome = .error f) ∧
      ((∀ s, context.registry.Reaches context.registry.steps node s → s.WellTyped) →
        ∀ f, (cast context node v).outcome = .error f → f.isTooDeep = true ∨
          ∃ s w, context.registry.Reaches context.registry.steps node s ∧ s.Escapes w f) := by
  constructor
  · have hmeets := (Conformance.checkNode_eq_nil _ _ _ node v [] [] hvalid).1 rfl
    have haccepts := Casting.castNode_accepts context context.limit.toNat hdirect hs [] [] hv hmeets
    cases houtcome : (Casting.castNode context context.limit.toNat node v [] []).outcome with
    | ok r => exact .inl ⟨r, cast_outcome_ok.2 houtcome⟩
    | error e =>
      cases e with
      | issues is => exact absurd houtcome (haccepts is)
      | fault f => exact .inr ⟨f, cast_outcome_error.2 houtcome⟩
  · intro hwell f hf
    have hguarded : Validation.Guarded context.registry (fun f => f.isTooDeep = true ∨
        ∃ s w, context.registry.Reaches context.registry.steps node s ∧ s.Escapes w f) node := {
      wellTyped := hwell
      escapes := fun s hreach w f hf => .inr ⟨s, w, hreach, hf⟩
      tooDeep := fun f hf => .inl hf }
    exact Casting.castNode_stopsOnly context _ hguarded v [] [] f (cast_outcome_error.1 hf)

/-- Values of one type, in one format. -/
def leaf (type : TypeName) (format : Value) : Schema where
  type := some type
  format := format

/-- What is lent until a day. -/
def loan : Schema where
  type := some .object
  properties := some [("due", .schema (leaf .string (.str "date")))]
  required := [.str "due"]

/-- The number of a shelf, or else its name. -/
def shelf : Schema where
  anyOf := some [.schema (leaf .integer .null), .schema (leaf .string .null)]

/-- A volume with a title and a place, lent until a day. -/
def volume : Schema where
  properties := some [("title", .schema (leaf .string .null)), ("shelf", .schema shelf)]
  required := [.str "title", .str "due"]
  allOf := some [.ref "Loan"]

/-- The schemas of volumes and loans. -/
def library : Registry := ⟨[("Volume", .schema volume), ("Loan", .schema loan)]⟩

/-- A volume leads to volumes, loans, shelves and what has one type. -/
lemma eq_of_reaches_volume {s : Schema} (h : library.Reaches library.steps (.ref "Volume") s) :
    s = volume ∨ s = loan ∨ s = shelf ∨ s = leaf .string .null ∨ s = leaf .integer .null ∨
      s = leaf .string (.str "date") := by
  have hclosed : Node.schema s ∈ [.ref "Volume", .ref "Loan", .schema volume, .schema loan,
      .schema shelf, .schema (leaf .string .null), .schema (leaf .integer .null),
      .schema (leaf .string (.str "date"))] := by
    refine h.of_closed (Q := fun node => node ∈ [.ref "Volume", .ref "Loan", .schema volume,
      .schema loan, .schema shelf, .schema (leaf .string .null), .schema (leaf .integer .null),
      .schema (leaf .string (.str "date"))]) ?_ ?_ List.mem_cons_self
    · intro name target hname hget
      simp only [List.mem_cons, Node.ref.injEq, reduceCtorEq, List.not_mem_nil, or_false] at hname
      rcases hname with rfl | rfl
      · obtain rfl := Option.some.inj hget
        simp
      · obtain rfl := Option.some.inj hget
        simp
    · intro t c ht hc
      simp only [List.mem_cons, Node.schema.injEq, reduceCtorEq, List.not_mem_nil, or_false,
        false_or] at ht
      rcases ht with rfl | rfl | rfl | rfl | rfl | rfl
      · have hmem : c ∈ [.schema (leaf .string .null), .schema shelf, .ref "Loan"] := hc
        simp only [List.mem_cons, List.not_mem_nil, or_false] at hmem
        rcases hmem with rfl | rfl | rfl <;> simp
      · obtain rfl := List.mem_singleton.1 hc
        simp
      · have hmem : c ∈ [.schema (leaf .integer .null), .schema (leaf .string .null)] := hc
        simp only [List.mem_cons, List.not_mem_nil, or_false] at hmem
        rcases hmem with rfl | rfl <;> simp
      · cases hc
      · cases hc
      · cases hc
  simpa using hclosed

/-- Parts of volumes are cast to what conforms. -/
lemma library_isSound {d : Node} (hd : ∀ s, library.Reaches library.steps d s →
    library.Reaches library.steps (.ref "Volume") s) : library.IsSound d where
  asksAlike s hs := by
    have hreach : library.Reaches library.steps d s := hs.of_steps fun t _ c hc => by
      unfold Keywords.shapeNodes at hc
      split at hc
      · cases hc
      · exact List.mem_append_left _ (Keywords.mem_children_of_part hc)
    rcases eq_of_reaches_volume (hd s hreach) with rfl | rfl | rfl | rfl | rfl | rfl <;>
      constructor <;>
      simp [volume, loan, shelf, leaf, Keywords.isComposed, Keywords.hasAlternatives,
        Keywords.oneOfList, Keywords.anyOfList, Keywords.allOfList, Keywords.declares,
        Keywords.declared, Value.equal]
  one s hs := by
    have hreach : library.Reaches library.steps d s := hs.of_steps fun t _ c hc => by
      rcases List.mem_append.1 hc with hc | hc
      · exact List.mem_append_left _ (Keywords.mem_children_of_part hc)
      · exact List.mem_append_left _
          (Keywords.mem_children_of_same (Keywords.mem_sameNodes_allOf hc))
    rcases eq_of_reaches_volume (hd s hreach) with rfl | rfl | rfl | rfl | rfl | rfl <;> rfl

/-- Volumes are composed of layers. -/
lemma volume_isLayered : library.IsLayered (fun _ => True) (fun _ => True) volume := by
  have hloan : library.Stands (.ref "Loan") loan := .ref rfl
  have hvolume : library.Stands (.schema volume) volume := .schema volume
  have hbase : ∀ c ∈ volume.base ++ Casting.alternatives volume,
      c = .schema volume ∨ c = .ref "Loan" := fun c hc => by
    simpa [Keywords.base, volume, Keywords.allOfList, Casting.alternatives, Keywords.oneOfList,
      Keywords.anyOfList] using hc
  constructor
  case isComposed => rfl
  case isPropertywise => exact ⟨.inl rfl, rfl, rfl, rfl, rfl⟩
  case object => exact .inr (.inl ⟨_, List.mem_singleton_self _, loan, hloan, rfl, rfl⟩)
  case layers =>
    intro c hc
    obtain rfl : c = .ref "Loan" := by
      simpa [volume, Keywords.allOfList, Casting.alternatives, Keywords.oneOfList,
        Keywords.anyOfList] using hc
    exact ⟨loan, hloan, ⟨.inr rfl, rfl, rfl, rfl, rfl⟩, rfl⟩
  case apart =>
    refine List.pairwise_pair.2 ?_
    rintro name ⟨d, hd⟩ ⟨d', hd'⟩
    rw [hvolume.declares_iff] at hd
    rw [hloan.declares_iff] at hd'
    obtain rfl : name = "due" := congrArg Prod.fst (List.mem_singleton.1 hd')
    simp [volume, Keywords.declared] at hd
  case alternativesApart => exact fun c _ c' hc' => by cases hc'
  case required =>
    intro c hc m hm name hname
    have hnames : name = "title" ∨ name = "due" := by
      rcases hbase c (List.mem_append_left _ hc) with rfl | rfl
      · obtain rfl := hm.unique hvolume
        simpa [volume] using hname
      · obtain rfl := hm.unique hloan
        exact .inr (by simpa [loan] using hname)
    rcases hnames with rfl | rfl
    · exact .inl (.inl (.inr rfl))
    · exact .inl (.inr ⟨_, List.mem_singleton_self _, loan, hloan, .inr rfl⟩)
  case alternativesRequired => exact fun c hc => by cases hc
  case parts =>
    rintro c hc name d ⟨m, hm, hd⟩
    refine .inl (library_isSound fun s hs => ?_)
    have hmem : d ∈ library.steps m :=
      List.mem_append_left _ (Keywords.mem_children_of_part (Keywords.mem_partNodes_declared hd))
    have hreach : library.Reaches library.steps c s := hm.reaches (.child hmem hs)
    rcases hbase c hc with rfl | rfl
    · exact .ref rfl hreach
    · have hstep : Node.ref "Loan" ∈ library.steps volume := List.mem_append_left _
        (Keywords.mem_children_of_same (Keywords.mem_sameNodes_allOf (List.mem_singleton_self _)))
      exact .ref rfl (.child hstep hreach)

/-- All schemas that volumes lead to are of one of the four kinds. -/
lemma library_completes {s : Schema} (h : library.Reaches library.steps (.ref "Volume") s) :
    library.Completes (fun _ => True) (fun _ => True) s := by
  have hrepeats : ∀ s : Schema, s.enum = none → (s.type = some .integer → s.multipleOf = .null ∧
      s.format = .null) → s.minProperties = .null → s.uniqueItems = .bool false →
      library.Repeats (fun _ => True) (fun _ => True) s := fun s henum hinteger hcount hunique => {
    dates := fun _ members hmembers => by rw [henum] at hmembers; cases hmembers
    whole := fun htype x _ n _ => by
      obtain ⟨hmultiple, hformat⟩ := hinteger htype
      rw [hmultiple, hformat]
      exact ⟨rfl, rfl⟩
    few := .inl (by rw [hcount]; rfl)
    unique := fun htruthy => by rw [hunique] at htruthy; cases htruthy }
  rcases eq_of_reaches_volume h with rfl | rfl | rfl | rfl | rfl | rfl
  · exact .layers volume_isLayered
  · exact .shape rfl rfl (hrepeats _ rfl (by simp [loan]) rfl rfl)
  · refine .handsOn ⟨⟨rfl, rfl, rfl, rfl⟩, .inl ⟨rfl, rfl⟩, rfl, fun test v _ => ?_⟩ fun c hc => ?_
    · cases v <;> rfl
    · have hstep : c ∈ shelf.children :=
        Keywords.mem_children_of_same (Keywords.mem_sameNodes_anyOf hc)
      exact .inl (library_isSound fun s hs => h.trans (List.mem_append_left _ hstep) hs)
  · exact .shape rfl rfl (hrepeats _ rfl (by simp [leaf]) rfl rfl)
  · exact .shape rfl rfl (hrepeats _ rfl (by simp [leaf]) rfl rfl)
  · exact .shape rfl rfl (hrepeats _ rfl (by simp [leaf]) rfl rfl)

/-- A volume, lent until a leap day, that is also said to be lost. -/
def emma : Value := .mapping [(.str "title", .str "Emma"), (.str "shelf", .str "12"),
  (.str "due", .str "2024-02-29"), (.str "lost", .null)]

/-- Every JSON value that validates as a volume is cast, or its cast stops at the depth guard. So a
volume is, with the number of its shelf, its day and nothing undeclared. -/
theorem volumes_are_cast :
    (∀ v limit, v.IsJsonOf (fun _ => True) (fun _ => True) →
      validate library (.ref "Volume") v limit = .ok [] →
      (∃ r, (cast ⟨library, .generic, limit⟩ (.ref "Volume") v).outcome = .ok (.ok r)) ∨
        ∃ f, (cast ⟨library, .generic, limit⟩ (.ref "Volume") v).outcome = .error f ∧
          f.isTooDeep = true) ∧
      validate library (.ref "Volume") emma 9 = .ok [] ∧
      (match (cast ⟨library, .generic, 9⟩ (.ref "Volume") emma).outcome with
        | .ok (.ok (.mapping [(.str "title", .str "Emma"), (.str "shelf", .int 12),
          (.str "due", .date ⟨2024, 2, 29, _⟩)])) => true
        | _ => false) = true := by
  have hsteps : ∀ s, library.Reaches Keywords.castNodes (.ref "Volume") s →
      library.Reaches library.steps (.ref "Volume") s := fun s hs =>
    hs.of_steps fun t _ c hc => List.mem_append_left _ (Keywords.mem_children_of_cast hc)
  have hdirect : ∀ s, library.Reaches Keywords.castNodes (.ref "Volume") s → s.IsDirect := by
    intro s hs
    rcases eq_of_reaches_volume (hsteps s hs) with rfl | rfl | rfl | rfl | rfl | rfl <;>
      exact ⟨rfl, rfl, by decide⟩
  refine ⟨fun v limit hv hvalid => ?_, eq_ok_nil_of_isEmpty (by decide +kernel), by decide +kernel⟩
  have hcompletes := fun s hs => library_completes (hsteps s hs)
  obtain ⟨hcast, hstops⟩ :=
    @cast_of_validate ⟨library, .generic, limit⟩ _ _ _ hdirect hcompletes v hv hvalid
  refine hcast.imp_right fun ⟨f, hf⟩ => ⟨f, hf, ?_⟩
  have hwell : ∀ s, library.Reaches library.steps (.ref "Volume") s → s.WellTyped := by
    intro s hs
    rcases eq_of_reaches_volume hs with rfl | rfl | rfl | rfl | rfl | rfl <;> constructor <;>
      simp [volume, loan, shelf, leaf]
  rcases hstops hwell f hf with hdeep | ⟨s, w, hs, hescapes⟩
  · exact hdeep
  · have hasks := (Keywords.exists_escapes_iff (hwell s hs)).1 ⟨w, f, hescapes⟩
    rcases eq_of_reaches_volume hs with rfl | rfl | rfl | rfl | rfl | rfl <;>
      simp [volume, loan, shelf, leaf, Value.isTruthy] at hasks

/-- A value validates, and its cast comes back with issues. -/
def IsRefused (s : Schema) (v : Value) : Prop :=
  validate ⟨[]⟩ (.schema s) v 64 = .ok [] ∧
    ∃ is, (cast ⟨⟨[]⟩, .generic, 64⟩ (.schema s) v).outcome = .ok (.failed is)

/-- A value is refused if it is found to be. -/
lemma isRefused_of_check {s : Schema} {v : Value}
    (hvalid : ((validate ⟨[]⟩ (.schema s) v 64).map List.isEmpty).toOption = some true)
    (hcast : (match (cast ⟨⟨[]⟩, .generic, 64⟩ (.schema s) v).outcome with
      | .ok (.failed _) => true
      | _ => false) = true) : IsRefused s v := by
  refine ⟨eq_ok_nil_of_isEmpty hvalid, ?_⟩
  split at hcast
  next is heq => exact ⟨is, heq⟩
  next => cases hcast

/-- Objects of which one property is declared. -/
def declaring (name : String) (part : Schema) : Schema where
  properties := some [(name, .schema part)]

/-- **What conversion gets in the way of**: values that validate are refused, for what they become
is not listed, out of range, with too few properties, with items alike, or a match of what must not
match; or because a composition makes of them what the schema around it does not accept, leaves out
what it requires, converts a property twice, or makes what more than one alternative accepts. -/
theorem conforming_refused :
    IsRefused { (leaf .string (.str "date")) with enum := some [.str "2020-01-01"] }
        (.str "2020-01-01") ∧
      IsRefused (leaf .integer (.str "int32")) (.float (.ofInt 3000000000)) ∧
      IsRefused { (declaring "a" {}) with minProperties := .int 2 }
        (.mapping [(.str "a", .null), (.str "b", .null)]) ∧
      IsRefused {
          type := some .array
          items := some (.schema (leaf .string (.str "date-time")))
          uniqueItems := .bool true }
        (.list [.str "2020-01-01T00:00:00Z", .str "2020-01-01T00:00:00+00:00"]) ∧
      IsRefused { (leaf .string (.str "date")) with
          notSchema := some (.schema { notSchema := some (.schema (leaf .string .null)) }) }
        (.str "2020-01-01") ∧
      IsRefused { (leaf .string .null) with
          anyOf := some [.schema (leaf .integer .null), .schema (leaf .string .null)] }
        (.str "12") ∧
      IsRefused { required := [.str "b"], allOf := some [.schema (declaring "a" {})] }
        (.mapping [(.str "a", .null), (.str "b", .null)]) ∧
      IsRefused { (declaring "d" (leaf .string .null)) with
          allOf := some [.schema (declaring "d" (leaf .string (.str "date")))] }
        (.mapping [(.str "d", .str "2020-01-01")]) ∧
      IsRefused {
          allOf := some [.schema {
            oneOf := some [.schema (leaf .integer .null), .schema (leaf .number .null),
              .schema (leaf .string .null)] }] }
        (.str "12") := by
  refine ⟨?_, ?_, ?_, ?_, ?_, ?_, ?_, ?_, ?_⟩ <;>
    exact isRefused_of_check (by decide +kernel) (by decide +kernel)

end DataSchema
