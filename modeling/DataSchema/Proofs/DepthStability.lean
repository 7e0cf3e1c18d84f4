import DataSchema.Proofs.CastStops

set_option autoImplicit false

/-!
# Verdicts do not depend on the limit

An evaluation that ends before the depth guard stops it ends in the same way within every larger
limit: no fault of the guard is turned into a verdict on the way. Where a composition is judged by
its candidates, a verdict therefore rests on verdicts about all candidates that were tried.

## Main definitions

* `DataSchema.WithinDepth`, `DataSchema.Casting.CastWithinDepth` — evaluations that the depth guard
  does not stop.
* `DataSchema.IsTried` — the candidates that are tried until one is accepted.

## Main results

* `DataSchema.Validation.checkNode_stable`, `DataSchema.Casting.castNode_stable` — checks and casts
  by nodes with more depth left.
* `DataSchema.Validation.checkComposition_tried`, `DataSchema.Casting.firstMatch_tried` — verdicts
  about compositions rest on those about the candidates.
* `DataSchema.depth_stable` — checks and casts of whole values within a larger limit.
-/

namespace DataSchema

/-! ## Evaluations within the depth guard -/

/-- An evaluation ends before the depth guard stops it. -/
abbrev WithinDepth {α : Type} (x : Except Fault α) : Prop :=
  StopsOnly (fun f => f.isTooDeep = false) x

/-- A cast ends before the depth guard stops it. -/
abbrev Casting.CastWithinDepth {α : Type} (x : Casts α) : Prop :=
  CastStopsOnly (fun f => f.isTooDeep = false) x

/-- A verdict is reached within the depth guard. -/
lemma withinDepth_of_eq_ok {α : Type} {x : Except Fault α} (h : ∃ a, x = .ok a) :
    WithinDepth x := by
  obtain ⟨a, rfl⟩ := h
  exact .ok a

namespace Leeway

variable {base : Path}

/-- Issues at the same place that say the same are the same. -/
lemma eq_of_sameIssues {is js : List Issue}
    (h : List.Forall₂ (deeper base base).SameIssues is js) : is = js := by
  induction h with
  | nil => rfl
  | @cons i j is js hij _ ih =>
    obtain ⟨hkind, hmessage, rest, hi, hj⟩ := hij
    have hpath : i.path = j.path := hi.trans hj.symm
    obtain ⟨kind, message, path⟩ := i
    simp only at hkind hmessage hpath
    rw [ih, hkind, hmessage, hpath]

/-- A check somewhere else with more depth left ends like one within the depth guard, as far as
related results have something in common. -/
lemma SameChecks.map_eq_of_within {base' : Path} {α β γ : Type} {R : α → β → Prop}
    {x : Except Fault α} {y : Except Fault β} (h : (deeper base base').SameChecks R x y)
    (hx : WithinDepth x) {f : α → γ} {g : β → γ} (hR : ∀ a b, R a b → f a = g b) :
    x.map f = y.map g := by
  cases h with
  | @excused e _ he =>
    have hdeep : e.isTooDeep = true := he
    rw [hx e rfl] at hdeep
    cases hdeep
  | @error e _ hfg =>
    rcases hfg with rfl | ⟨hdeep, -⟩
    · rfl
    · rw [hx e rfl] at hdeep
      cases hdeep
  | ok hab => exact congrArg Except.ok (hR _ _ hab)

/-- A check at the same place with more depth left ends like one within the depth guard. -/
lemma SameChecks.eq_of_within {x y : Check} (h : (deeper base base).Found x y)
    (hx : WithinDepth x) : y = x := by
  have heq : x.map id = y.map id := h.map_eq_of_within hx fun is js hij => eq_of_sameIssues hij
  simpa only [Except.map_id, id_eq] using heq.symm

/-- A cast at the same place with more depth left ends like one within the depth guard. -/
lemma SameCasts.outcome_eq_of_within {α : Type} {x y : Casts α}
    (h : (deeper base base).SameCasts Eq x y) (hx : Casting.CastWithinDepth x) :
    y.outcome = x.outcome := by
  rcases h with ⟨e, -, hevent⟩ | h
  · cases hevent
  · unfold Casting.CastWithinDepth Casting.CastStopsOnly at hx
    generalize x.outcome = ox at h hx
    generalize y.outcome = oy at h
    cases h with
    | @excused f _ hf =>
      have hdeep : f.isTooDeep = true := hf
      rw [show f.isTooDeep = false from hx f rfl] at hdeep
      cases hdeep
    | @fault f _ hfg =>
      rcases hfg with rfl | ⟨hdeep, -⟩
      · rfl
      · rw [show f.isTooDeep = false from hx f rfl] at hdeep
        cases hdeep
    | issues hij => rw [eq_of_sameIssues hij]
    | ok hab => rw [hab]

end Leeway

/-! ## More depth -/

namespace Validation

/-- **Checks are stable**: a check within the depth guard ends in the same way with more depth
left. -/
theorem checkNode_stable {registry : Registry} {limit limit' : Int} {depth depth' : Nat}
    (hdepth : depth ≤ depth') {node : Node} {v : Value} {path : Path}
    (h : WithinDepth (checkNode registry limit depth node v path)) :
    checkNode registry limit' depth' node v path = checkNode registry limit depth node v path := by
  have hsame := checkNode_deeper registry limit limit' path path hdepth node
  exact (hsame v path path ⟨[], by simp, by simp⟩).eq_of_within h

end Validation

namespace Casting

/-- **Casts are stable**: a cast within the depth guard ends in the same way with more depth
left. -/
theorem castNode_stable {registry : Registry} {types : TypeMap} {limit limit' : Int}
    {depth depth' : Nat} (hdepth : depth ≤ depth') {node : Node} {v : Value} {path : Path}
    {active : List String}
    (h : CastWithinDepth (castNode ⟨registry, types, limit⟩ depth node v path active)) :
    (castNode ⟨registry, types, limit'⟩ depth' node v path active).outcome =
      (castNode ⟨registry, types, limit⟩ depth node v path active).outcome := by
  have hsame : (Leeway.deeper path path).CastAt (castNode ⟨registry, types, limit⟩ depth)
      (castNode ⟨registry, types, limit'⟩ depth') active active node := by
    apply castNode_deeper
    · rfl
    · rfl
    · exact hdepth
  exact (hsame v path path ⟨[], by simp, by simp⟩).outcome_eq_of_within h

end Casting

/-- Casts of a whole value end alike where the casts by its node do. -/
lemma cast_outcome_congr {context context' : CastContext} {node node' : Node} {v : Value}
    (h : (Casting.castNode context context.limit.toNat node v [] []).outcome =
      (Casting.castNode context' context'.limit.toNat node' v [] []).outcome) :
    (cast context node v).outcome = (cast context' node' v).outcome := by
  rw [cast_outcome_eq, cast_outcome_eq]
  unfold Casting.verdict
  rw [h]

/-- Casts of a whole value are within the depth guard where the casts by its node are. -/
lemma withinDepth_cast {context : CastContext} {node : Node} {v : Value} :
    WithinDepth (cast context node v).outcome ↔ Casting.CastWithinDepth
      (Casting.castNode context context.limit.toNat node v [] []) :=
  forall_congr' fun _ => imp_congr_left cast_outcome_error

/-! ## Candidates -/

/-- A candidate is tried if none before it is accepted. -/
def IsTried (accepted : Node → Prop) (candidates : List Node) (c : Node) : Prop :=
  ∃ before after, candidates = before ++ c :: after ∧ ∀ b ∈ before, ¬accepted b

/-- A candidate other than the first is tried only if the first is not accepted. -/
lemma IsTried.cons {accepted : Node → Prop} {candidates : List Node} {a c : Node}
    (h : IsTried accepted (a :: candidates) c) :
    c = a ∨ ¬accepted a ∧ IsTried accepted candidates c := by
  obtain ⟨before, after, heq, hnone⟩ := h
  cases before with
  | nil => exact .inl (List.cons.inj heq).1.symm
  | cons b before =>
    obtain ⟨rfl, htail⟩ := List.cons.inj heq
    exact .inr ⟨hnone a List.mem_cons_self,
      ⟨before, after, htail, fun b hb => hnone b (List.mem_cons_of_mem a hb)⟩⟩

/-- No candidate is tried where there is none. -/
lemma not_isTried_nil {accepted : Node → Prop} {c : Node} : ¬IsTried accepted [] c := by
  rintro ⟨before, after, heq, -⟩
  cases before <;> cases heq

namespace Validation

variable {child : NodeChecker} {s : Schema} {v : Value} {path : Path}

/-- A verdict about conformance to a node is a verdict of the check. -/
lemma conforms_eq_ok {c : Node} {b : Bool} (h : conforms child c v path = .ok b) :
    ∃ is, child c v path = .ok is ∧ is.isEmpty = b :=
  map_eq_ok.1 h

/-- A verdict about conformance to one of several nodes rests on verdicts about those that are
tried. -/
lemma conformsToAny_tried {nodes : List Node} {b : Bool}
    (h : conformsToAny child v path nodes = .ok b) {c : Node}
    (hc : IsTried (fun a => child a v path = .ok []) nodes c) : ∃ is, child c v path = .ok is := by
  induction nodes with
  | nil => exact absurd hc not_isTried_nil
  | cons a nodes ih =>
    obtain ⟨fits, hfits, hrest⟩ := bind_eq_ok.1 h
    obtain ⟨is, his, hempty⟩ := conforms_eq_ok hfits
    rcases hc.cons with rfl | ⟨hnot, hc⟩
    · exact ⟨is, his⟩
    · cases fits with
      | true =>
        rw [List.isEmpty_iff] at hempty
        rw [hempty] at his
        exact absurd his hnot
      | false => exact ih hrest hc

/-- The number of nodes that a value conforms to rests on verdicts about all of them. -/
lemma conformingCount_tried {nodes : List Node} {n : Nat}
    (h : conformingCount child v path nodes = .ok n) {c : Node} (hc : c ∈ nodes) :
    ∃ is, child c v path = .ok is := by
  induction nodes generalizing n with
  | nil => cases hc
  | cons a nodes ih =>
    obtain ⟨fits, hfits, hrest⟩ := bind_eq_ok.1 h
    obtain ⟨others, hothers, -⟩ := bind_eq_ok.1 hrest
    obtain ⟨is, his, -⟩ := conforms_eq_ok hfits
    rcases List.mem_cons.1 hc with rfl | hc
    · exact ⟨is, his⟩
    · exact ih hothers hc

/-- A verdict about alternatives of which one must conform rests on those that are tried. -/
lemma checkAnyOf_tried {is : List Issue} (h : checkAnyOf child s v path = .ok is) {c : Node}
    (hc : IsTried (fun a => child a v path = .ok []) s.anyOfList c) :
    ∃ js, child c v path = .ok js := by
  unfold checkAnyOf at h
  split at h
  next hnil =>
    rw [List.isEmpty_iff.1 hnil] at hc
    exact absurd hc not_isTried_nil
  next =>
    obtain ⟨fits, hfits, -⟩ := bind_eq_ok.1 h
    exact conformsToAny_tried hfits hc

/-- A verdict about alternatives of which exactly one must conform rests on all of them. -/
lemma checkOneOf_tried {is : List Issue} (h : checkOneOf child s v path = .ok is) {c : Node}
    (hc : c ∈ s.oneOfList) : ∃ js, child c v path = .ok js := by
  unfold checkOneOf at h
  split at h
  next hnil =>
    rw [List.isEmpty_iff.1 hnil] at hc
    cases hc
  next =>
    obtain ⟨count, hcount, -⟩ := bind_eq_ok.1 h
    exact conformingCount_tried hcount hc

/-- A verdict about what must not match rests on one about the schema that must not. -/
lemma checkNot_tried {is : List Issue} (h : checkNot child s v path = .ok is) {c : Node}
    (hc : s.notSchema = some c) : ∃ js, child c v path = .ok js := by
  unfold checkNot at h
  rw [hc] at h
  obtain ⟨fits, hfits, -⟩ := bind_eq_ok.1 h
  obtain ⟨js, hjs, -⟩ := conforms_eq_ok hfits
  exact ⟨js, hjs⟩

/-- **Verdicts about compositions** rest on verdicts about the members, about the alternatives that
are tried, and about the schema that must not match. -/
lemma checkComposition_tried {is : List Issue} (h : checkComposition child s v path = .ok is)
    {c : Node} (hc : c ∈ s.allOfList ∨ IsTried (fun a => child a v path = .ok []) s.anyOfList c ∨
      c ∈ s.oneOfList ∨ s.notSchema = some c) : ∃ js, child c v path = .ok js := by
  unfold checkComposition at h
  obtain ⟨all, hall, h⟩ := bind_eq_ok.1 h
  obtain ⟨any, hany, h⟩ := bind_eq_ok.1 h
  obtain ⟨one, hone, h⟩ := bind_eq_ok.1 h
  obtain ⟨no, hno, -⟩ := bind_eq_ok.1 h
  rcases hc with hc | hc | hc | hc
  · obtain ⟨js, hjs, -⟩ := subset_gather hall hc
    exact ⟨js, hjs⟩
  · exact checkAnyOf_tried hany hc
  · exact checkOneOf_tried hone hc
  · exact checkNot_tried hno hc

/-- A verdict about a value that is not null is reached after one about the composition of the
schema. -/
lemma checkSchema_composition (hv : v.isNull = false) {is : List Issue}
    (h : checkSchema child s v path = .ok is) :
    ∃ js, checkComposition child s v path = .ok js := by
  unfold checkSchema at h
  rw [hv, Bool.false_and, Bool.false_and, if_neg Bool.false_ne_true,
    if_neg Bool.false_ne_true] at h
  unfold checkKeywords at h
  obtain ⟨scalar, -, h⟩ := bind_eq_ok.1 h
  obtain ⟨object, -, h⟩ := bind_eq_ok.1 h
  obtain ⟨array, -, h⟩ := bind_eq_ok.1 h
  obtain ⟨composition, hcomposition, -⟩ := bind_eq_ok.1 h
  exact ⟨composition, hcomposition⟩

end Validation

namespace Casting

variable {child : NodeCaster} {check : NodeChecker} {source : Value} {path : Path}
  {active : List String}

/-- A cast comes to a verdict, with a value or with issues. -/
abbrev IsDecided {α : Type} (x : Casts α) : Prop := CastStopsOnly (fun _ => False) x

/-- Casts in a row come to a verdict only if the first does. -/
lemma IsDecided.of_bind {α β : Type} {x : Casts α} {f : α → Casts β} (h : IsDecided (x >>= f)) :
    IsDecided x := fun g hg => h g (bind_outcome_error.2 (.inl hg))

/-- Casts in a row come to a verdict only if the second does, where the first succeeds. -/
lemma IsDecided.of_bind_right {α β : Type} {x : Casts α} {f : α → Casts β} {a : α}
    (h : IsDecided (x >>= f)) (hx : x.outcome = .ok a) : IsDecided (f a) :=
  fun g hg => h g (bind_outcome_error.2 (.inr ⟨a, hx, hg⟩))

/-- A cast that is tried comes to a verdict only if the cast does. -/
lemma IsDecided.of_attempt {x : Casts Value} (h : IsDecided (attempt x)) : IsDecided x := by
  obtain ⟨es, (is | f) | v⟩ := x
  · rintro g ⟨⟩
  · exact (h f rfl).elim
  · rintro g ⟨⟩

/-- A check as a cast comes to a verdict only if the check does. -/
lemma IsDecided.of_guarded {α : Type} {x : Except Fault α} (h : IsDecided (guarded x)) :
    ∃ a, x = .ok a := by
  cases x with
  | ok a => exact ⟨a, rfl⟩
  | error f => exact (h f rfl).elim

/-- **Choices among alternatives** rest on verdicts about those that are tried: the casts by them
are not stopped. -/
lemma firstMatch_tried {index : Nat} {nodes : List Node}
    (h : IsDecided (firstMatch child check source path active index nodes)) {c : Node}
    (hc : IsTried (fun a => ∃ r, (child a source path active).outcome = .ok r ∧
      check a r path = .ok []) nodes c) : IsDecided (child c source path active) := by
  induction nodes generalizing index with
  | nil => exact absurd hc not_isTried_nil
  | cons a nodes ih =>
    unfold firstMatch at h
    have hfirst : IsDecided (child a source path active) := h.of_bind.of_attempt
    rcases hc.cons with rfl | ⟨hnot, hc⟩
    · exact hfirst
    · cases hout : (child a source path active).outcome with
      | error failure =>
        cases failure with
        | fault f => exact (hfirst f hout).elim
        | issues is => exact ih (h.of_bind_right (attempt_outcome_ok.2 (.inr ⟨is, hout, rfl⟩))) hc
      | ok r =>
        have hcheck := h.of_bind_right (attempt_outcome_ok.2 (.inl ⟨r, hout, rfl⟩))
        obtain ⟨fits, hfits⟩ := hcheck.of_bind.of_guarded
        have hrest := hcheck.of_bind_right (guarded_outcome_ok.2 hfits)
        cases fits with
        | true =>
          obtain ⟨is, his, hempty⟩ := Validation.conforms_eq_ok hfits
          rw [List.isEmpty_iff] at hempty
          rw [hempty] at his
          exact absurd ⟨r, hout, his⟩ hnot
        | false => exact ih hrest hc

end Casting

/-! ## Whole values -/

/-- A candidate is tried too where fewer candidates are accepted. -/
lemma IsTried.mono {accepted accepted' : Node → Prop} {candidates : List Node} {c : Node}
    (h : IsTried accepted candidates c) (haccepted : ∀ a, accepted' a → accepted a) :
    IsTried accepted' candidates c := by
  obtain ⟨before, after, heq, hnone⟩ := h
  exact ⟨before, after, heq, fun b hb hb' => hnone b hb (haccepted b hb')⟩

/-- A verdict about a value that is not null rests on verdicts about the candidates of a
composition, within what is left of the limit. -/
lemma validate_tried {registry : Registry} {limit : Int} {s : Schema} {v : Value}
    (hv : v.isNull = false) {is : List Issue}
    (h : validate registry (.schema s) v (limit + 1) = .ok is) {c : Node}
    (hc : c ∈ s.allOfList ∨ IsTried (fun a => validate registry a v limit = .ok []) s.anyOfList c ∨
      c ∈ s.oneOfList ∨ s.notSchema = some c) : ∃ js, validate registry c v limit = .ok js := by
  unfold validate at h ⊢
  have hlimit : (limit + 1).toNat = limit.toNat + 1 := by
    by_contra hne
    have hzero : (limit + 1).toNat = 0 := by omega
    rw [hzero] at h
    cases h
  rw [hlimit] at h
  obtain ⟨js, hjs⟩ := Validation.checkSchema_composition hv h
  have hverdict := Validation.checkComposition_tried hjs (c := c)
    (hc.imp_right fun hc => hc.imp_left fun htried => htried.mono fun a ha =>
      Validation.checkNode_mono (Nat.le_refl _) ha)
  obtain ⟨ks, hks⟩ := hverdict
  exact ⟨ks, Validation.checkNode_mono (Nat.le_refl _) hks⟩

/-- **Depth stability**: a check or a cast of a whole value that the depth guard does not stop ends
in the same way within every larger limit, whatever cycles the registry has. So no failure of the
guard is turned into a verdict. Where a composition is judged, its members, the alternatives that
are tried and the schema that must not match have been judged within what is left of the limit; and
where alternatives are chosen from in a cast, the casts by those that are tried have come to a
verdict. -/
theorem depth_stable (registry : Registry) (types : TypeMap) {limit limit' : Int}
    (hlimit : limit ≤ limit') (node : Node) (v : Value) :
    (WithinDepth (validate registry node v limit) →
      validate registry node v limit' = validate registry node v limit) ∧
    (WithinDepth (cast ⟨registry, types, limit⟩ node v).outcome →
      (cast ⟨registry, types, limit'⟩ node v).outcome =
        (cast ⟨registry, types, limit⟩ node v).outcome) ∧
    (∀ s is c, v.isNull = false → validate registry (.schema s) v (limit + 1) = .ok is →
      (c ∈ s.allOfList ∨ IsTried (fun a => validate registry a v limit = .ok []) s.anyOfList c ∨
        c ∈ s.oneOfList ∨ s.notSchema = some c) → ∃ js, validate registry c v limit = .ok js) ∧
    (∀ depth path active index nodes c,
      Casting.IsDecided (Casting.firstMatch (Casting.castNode ⟨registry, types, limit⟩ depth)
        (Validation.checkNode registry limit depth) v path active index nodes) →
      IsTried (fun a => ∃ r,
        (Casting.castNode ⟨registry, types, limit⟩ depth a v path active).outcome = .ok r ∧
          Validation.checkNode registry limit depth a r path = .ok []) nodes c →
      Casting.IsDecided (Casting.castNode ⟨registry, types, limit⟩ depth c v path active)) := by
  have hdepth : limit.toNat ≤ limit'.toNat := Int.toNat_le_toNat hlimit
  refine ⟨fun h => Validation.checkNode_stable hdepth h, fun h => ?_, ?_, ?_⟩
  · exact cast_outcome_congr (Casting.castNode_stable hdepth (withinDepth_cast.1 h))
  · intro s is c hv h hc
    exact validate_tried hv h hc
  · intro depth path active index nodes c h hc
    exact Casting.firstMatch_tried h hc

/-- A word, or else what never comes to an end. -/
def wordOrLoop : Schema where
  anyOf := some [.schema { type := some .string }, .ref "Loop"]

/-- A name that stands for itself, and a schema that tries it last. -/
def loops : Registry := ⟨[("Loop", .ref "Loop"), ("Word", .schema wordOrLoop)]⟩

/-- A word is found to be one within two steps, and so within sixty-four, since the alternative that
never comes to an end is not tried; a number is not, since it is. -/
theorem word_stable :
    validate loops (.ref "Word") (.str "a") 64 = .ok [] ∧
    (cast ⟨loops, .generic, 64⟩ (.ref "Word") (.str "a")).outcome = .ok (.ok (.str "a")) ∧
    (∃ js, validate loops (.schema { type := some .string }) (.str "a") 2 = .ok js) ∧
    ¬WithinDepth (validate loops (.ref "Word") (.int 1) 64) := by
  have hcheck : validate loops (.ref "Word") (.str "a") 2 = .ok [] := rfl
  have hcast : (cast ⟨loops, .generic, 2⟩ (.ref "Word") (.str "a")).outcome =
      .ok (.ok (.str "a")) := rfl
  have hwhole : validate loops (.schema wordOrLoop) (.str "a") (2 + 1) = .ok [] := rfl
  obtain ⟨hvalidate, hcasts, htried, -⟩ :=
    depth_stable loops .generic (show (2 : Int) ≤ 64 by decide) (.ref "Word") (.str "a")
  refine ⟨?_, ?_, ?_, ?_⟩
  · rw [hvalidate (withinDepth_of_eq_ok ⟨_, hcheck⟩), hcheck]
  · rw [hcasts (withinDepth_of_eq_ok ⟨_, hcast⟩), hcast]
  · exact htried wordOrLoop [] _ rfl hwhole (.inr (.inl ⟨[], [.ref "Loop"], rfl, by simp⟩))
  · intro h
    cases h (.tooDeep 64 []) rfl

end DataSchema
