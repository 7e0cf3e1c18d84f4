import Mathlib
import DataSchema.Proofs.Keeping
import DataSchema.Proofs.KeyOrder

set_option autoImplicit false

/-!
# Casts of properties in another order

Two casts concur if both make values that are related or both fail, unless one of them stops. A
cast of a value goes through undeclared properties, and puts what became of them over each other,
in the order in which they come, and it gives up at the first that fails; but it concurs with the
cast of every value that differs only in the order of properties, and where both succeed, so do
what they make.

## Main definitions

* `DataSchema.Casting.Concur` — outcomes that come to the same.
* `DataSchema.Casting.Concurs` — casts with such outcomes.
* `DataSchema.Registry.BuildsMappings` — nodes by which objects are cast to mappings with names.

## Main results

* `DataSchema.Casting.Concurs.mapM_permuted` — casts of several things, in whatever order.
* `DataSchema.Casting.castOwn_concurs`, `DataSchema.Casting.castAllOf_concurs`,
  `DataSchema.Casting.castAlternative_concurs` — the parts of a cast by a schema.
* `DataSchema.Casting.castNode_concurs` — casts by nodes, at every depth.
* `DataSchema.reordered_alike` — checks and casts of whole values.
-/

namespace DataSchema

namespace Casting

open Validation

/-! ## Two casts side by side -/

/-- Two outcomes come to the same: results that are related, or failures with whatever issues. An
outcome that is a fault comes to the same as any other. -/
inductive Concur {α β : Type} (R : α → β → Prop) :
    Except CastFailure α → Except CastFailure β → Prop
  /-- Both succeed. -/
  | ok {a : α} {b : β} : R a b → Concur R (.ok a) (.ok b)
  /-- Both fail. -/
  | failed (is js : List Issue) : Concur R (.error (.issues is)) (.error (.issues js))
  /-- The first stops. -/
  | left (f : Fault) (y : Except CastFailure β) : Concur R (.error (.fault f)) y
  /-- The second stops. -/
  | right (x : Except CastFailure α) (f : Fault) : Concur R x (.error (.fault f))

/-- Two casts come to the same. -/
def Concurs {α β : Type} (R : α → β → Prop) (x : Casts α) (y : Casts β) : Prop :=
  Concur R x.outcome y.outcome

namespace Concurs

variable {α β α' β' : Type} {R : α → β → Prop} {S : α' → β' → Prop} {x : Casts α} {y : Casts β}

/-- Related results come to the same. -/
lemma pure {a : α} {b : β} (h : R a b) : Concurs R (Pure.pure a) (Pure.pure b) := .ok h

/-- Failures come to the same. -/
lemma fail (kind kind' : IssueKind) (message message' : String) (path path' : Path) :
    Concurs R (Casting.fail kind message path) (Casting.fail kind' message' path') := .failed _ _

/-- A cast comes to the same as itself. -/
lemma same (x : Casts α) : Concurs Eq x x := by
  obtain ⟨events, (is | f) | a⟩ := x
  · exact .failed _ _
  · exact .left _ _
  · exact .ok rfl

/-- The results of casts that concur are related. -/
lemma agree (h : Concurs R x y) : Agree R x.outcome y.outcome := by
  intro a b ha hb
  unfold Concurs at h
  rw [ha, hb] at h
  cases h with
  | ok hab => exact hab

/-- Of casts that concur, none succeeds where the other fails. -/
lemma not_failed (h : Concurs R x y) :
    (∀ a is, x.outcome = .ok a → y.outcome ≠ .error (.issues is)) ∧
      ∀ b is, y.outcome = .ok b → x.outcome ≠ .error (.issues is) := by
  unfold Concurs at h
  refine ⟨fun a is ha his => ?_, fun b is hb his => ?_⟩
  · rw [ha, his] at h
    cases h
  · rw [hb, his] at h
    cases h

/-- Casts concur if their results are related, and none succeeds where the other fails. -/
lemma of_agree (h : Agree R x.outcome y.outcome)
    (hleft : ∀ a is, x.outcome = .ok a → y.outcome ≠ .error (.issues is))
    (hright : ∀ b is, y.outcome = .ok b → x.outcome ≠ .error (.issues is)) : Concurs R x y := by
  unfold Concurs
  rcases hx : x.outcome with (is | f) | a <;> rcases hy : y.outcome with (js | g) | b
  · exact .failed is js
  · exact .right _ g
  · exact absurd hx (hright b is hy)
  · exact .left f _
  · exact .left f _
  · exact .left f _
  · exact absurd hy (hleft a js hx)
  · exact .right _ g
  · exact .ok (h a b hx hy)

/-- Casts in a row concur if the first ones do, and the second ones on what the first ones make. -/
lemma bind_result {f : α → Casts α'} {g : β → Casts β'} (h : Concurs R x y)
    (hfg : ∀ a b, x.outcome = .ok a → y.outcome = .ok b → R a b → Concurs S (f a) (g b)) :
    Concurs S (x >>= f) (y >>= g) := by
  unfold Concurs at h hfg ⊢
  rw [Traced.outcome_bind, Traced.outcome_bind]
  generalize x.outcome = p at h hfg ⊢
  generalize y.outcome = q at h hfg ⊢
  cases h with
  | ok hab => exact hfg _ _ rfl rfl hab
  | failed is js => exact .failed is js
  | left f _ => exact .left f _
  | right _ f => exact .right _ f

/-- Casts in a row concur if the first ones do, and the second ones on related values. -/
lemma bind {f : α → Casts α'} {g : β → Casts β'} (h : Concurs R x y)
    (hfg : ∀ a b, R a b → Concurs S (f a) (g b)) : Concurs S (x >>= f) (y >>= g) :=
  h.bind_result fun a b _ _ => hfg a b

/-- Checks that agree concur as casts. -/
lemma guarded {x : Except Fault α} {y : Except Fault β} (h : Agree R x y) :
    Concurs R (Casting.guarded x) (Casting.guarded y) := by
  cases x with
  | error f => exact .left f _
  | ok a =>
    cases y with
    | error f => exact .right _ f
    | ok b => exact .ok (h a b rfl rfl)

/-- Requirements concur if their checks come to no issue alike. -/
lemma require {x y : Check} (h : AgreeOnNone x y) :
    Concurs (fun _ _ => True) (Casting.require x) (Casting.require y) := by
  refine (guarded h).bind fun is js hnone => ?_
  rw [hnone]
  split
  · exact .ok trivial
  · exact .failed _ _

/-- Attempts concur if what is attempted does. -/
lemma attempt {R : Value → Value → Prop} {x y : Casts Value} (h : Concurs R x y) :
    Concurs (Option.Rel R) (Casting.attempt x) (Casting.attempt y) := by
  obtain ⟨events, p⟩ := x
  obtain ⟨events', q⟩ := y
  unfold Concurs at h
  dsimp only at h
  cases h with
  | ok hab => exact .ok (.some hab)
  | failed is js => exact .ok .none
  | left f q =>
    unfold Concurs
    exact .left f _
  | right p f =>
    unfold Concurs
    exact .right _ f

section each

variable {P : α → β → Prop} {f : α → Casts α'} {g : β → Casts β'} {xs : List α} {zs : List β}

/-- Of casts of several things, none succeeds where the other fails, in whatever order the things
come. -/
lemma mapM_not_failed (h : Permuted P xs zs) (hfg : ∀ x z, P x z → Concurs S (f x) (g z)) :
    (∀ as is, (xs.mapM f).outcome = .ok as → (zs.mapM g).outcome ≠ .error (.issues is)) ∧
      ∀ bs is, (zs.mapM g).outcome = .ok bs → (xs.mapM f).outcome ≠ .error (.issues is) := by
  have hall : ∀ {γ γ' : Type} {k : γ → Casts γ'} {us : List γ} {cs : List γ'},
      (us.mapM k).outcome = .ok cs → ∀ u ∈ us, ∃ c, (k u).outcome = .ok c := by
    intro γ γ' k us cs hcs u hu
    rw [Traced.outcome_mapM, mapM_eq_ok] at hcs
    obtain ⟨c, -, hc⟩ := (Permuted.of_forall₂ hcs).exists_right hu
    exact ⟨c, hc⟩
  refine ⟨fun as is has his => ?_, fun bs is hbs his => ?_⟩
  · rw [Traced.outcome_mapM] at his
    obtain ⟨z, hz, hfail⟩ := mapM_eq_error his
    obtain ⟨x, hx, hxz⟩ := h.exists_left hz
    obtain ⟨a, ha⟩ := hall has x hx
    exact (hfg x z hxz).not_failed.1 a is ha hfail
  · rw [Traced.outcome_mapM] at his
    obtain ⟨x, hx, hfail⟩ := mapM_eq_error his
    obtain ⟨z, hz, hxz⟩ := h.exists_right hx
    obtain ⟨b, hb⟩ := hall hbs z hz
    exact (hfg x z hxz).not_failed.2 b is hb hfail

/-- Casts of several things concur if they do thing by thing. -/
lemma mapM (h : List.Forall₂ P xs zs) (hfg : ∀ x z, P x z → Concurs S (f x) (g z)) :
    Concurs (List.Forall₂ S) (xs.mapM f) (zs.mapM g) := by
  obtain ⟨hleft, hright⟩ := mapM_not_failed (.of_forall₂ h) hfg
  refine of_agree ?_ hleft hright
  rw [Traced.outcome_mapM, Traced.outcome_mapM]
  exact Agree.mapM h fun x z hxz => (hfg x z hxz).agree

/-- **Casts of several things concur**, in whatever order the things come. One of them may give up
at a thing that the other does not come to, but then the other gives up too. -/
lemma mapM_permuted (h : Permuted P xs zs) (hfg : ∀ x z, P x z → Concurs S (f x) (g z)) :
    Concurs (Permuted S) (xs.mapM f) (zs.mapM g) := by
  obtain ⟨hleft, hright⟩ := mapM_not_failed h hfg
  refine of_agree ?_ hleft hright
  rw [Traced.outcome_mapM, Traced.outcome_mapM]
  exact Agree.mapM_permuted h fun x z hxz => (hfg x z hxz).agree

end each

end Concurs

/-! ## The shape of a schema itself -/

variable {child : NodeCaster} {check : NodeChecker} {s : Schema} {v w own own' : Value}
  {es fs : Entries} {vs ws : List Value} {path : Path} {active : List String}

/-- A caster comes to the same with values that differ only in the order of properties. -/
def CastsNoKeyOrder (child : NodeCaster) (node : Node) : Prop :=
  ∀ v w path active, v.Reordered w →
    Concurs Value.Reordered (child node v path active) (child node w path active)

/-- A conversion leaves an object or an array as it is, or it fails. -/
lemma castScalar_container (h : v.isObject = true ∨ v.isArray = true) :
    castScalar s v path = if s.asksForScalar then failKind s v path else pure v := by
  have htyped : castTyped s v path = if s.asksForScalar then failKind s v path else pure v := by
    unfold castTyped Keywords.asksForScalar
    cases s.type with
    | none => rfl
    | some t =>
      cases v with
      | list _ | tuple _ | mapping _ | record _ _ => cases t <;> rfl
      | _ => simp [Value.isArray, Value.items?, Value.isObject] at h
  rw [← htyped]
  refine castScalar_of_notText ?_ (isTemporal_eq_false ?_ ?_ s.format)
  all_goals
    rintro _ rfl
    simp [Value.isArray, Value.items?, Value.isObject] at h

/-- Conversions come to the same. -/
lemma castScalar_concurs (h : v.Reordered w) :
    Concurs Value.Reordered (castScalar s v path) (castScalar s w path) := by
  have hcontainers : (v.isObject = true ∨ v.isArray = true) →
      Concurs Value.Reordered (castScalar s v path) (castScalar s w path) := by
    intro hv
    have hw := hv
    rw [h.isObject_eq, h.isArray_eq] at hw
    rw [castScalar_container hv, castScalar_container hw]
    split
    · exact .fail _ _ _ _ _ _
    · exact .pure h
  cases h with
  | @scalar v hscalar =>
    have hsame := Concurs.same (castScalar s v path)
    refine .of_agree (fun a b ha hb => ?_) hsame.not_failed.1 hsame.not_failed.2
    obtain rfl := hsame.agree a b ha hb
    rcases castScalar_scalar ha with rfl | ⟨-, hr⟩
    · exact .scalar hscalar
    · exact .scalar hr
  | list _ _ | tuple _ _ => exact hcontainers (.inr rfl)
  | mapping _ _ _ _ => exact hcontainers (.inl rfl)

/-- The same names are missing. -/
lemma missingNames_reordered (h : es.Reordered fs) (names : List Value) :
    missingNames es names = missingNames fs names := by
  induction names with
  | nil => rfl
  | cons n names ih => rw [missingNames, missingNames, ih, h.has]

/-- The same required names are missing. -/
lemma requireNames_reordered (h : es.Reordered fs) :
    requireNames s es path = requireNames s fs path := by
  unfold requireNames
  rw [missingNames_reordered h]

/-- Undeclared properties are refused alike. -/
lemma refuseExtra_concurs (h : Permuted Entries.SameEntry es fs) :
    Concurs (fun _ _ => True) (refuseExtra s es path) (refuseExtra s fs path) := by
  have hempty := h.isEmpty_eq
  unfold refuseExtra
  cases s.additional with
  | flag allowed =>
    cases allowed with
    | true => cases es <;> cases fs <;> exact .pure trivial
    | false =>
      cases es <;> cases fs
      · exact .pure trivial
      · cases hempty
      · cases hempty
      · exact .failed _ _
  | unspecified | schema _ => exact .pure trivial

/-- Casts of declared properties come to the same, one after the other. -/
lemma castDeclared_concurs (h : es.Reordered fs) {ps : List (String × Node)}
    (hchild : ∀ p ∈ ps, CastsNoKeyOrder child p.2) :
    Concurs (List.Forall₂ Entries.SameEntry) (castDeclared child es path active ps)
      (castDeclared child fs path active ps) := by
  induction ps with
  | nil => exact .pure .nil
  | cons p ps ih =>
    have hrest := ih fun q hq => hchild q (List.mem_cons_of_mem p hq)
    unfold castDeclared
    have hget := h.get? p.1
    generalize es.get? (.str p.1) = v?, fs.get? (.str p.1) = w? at hget ⊢
    cases hget with
    | none => exact hrest
    | some hvw =>
      refine (hchild p List.mem_cons_self _ _ _ _ hvw).bind fun r r' hr => ?_
      exact hrest.bind fun others others' hothers => .pure (.cons ⟨rfl, hr⟩ hothers)

/-- Casts of undeclared properties come to the same, in some order. -/
lemma castExtra_concurs (h : Permuted Entries.SameEntry es fs)
    (hchild : ∀ c, s.additional = .schema c → CastsNoKeyOrder child c) :
    Concurs (Permuted Entries.SameEntry) (castExtra child s es path active)
      (castExtra child s fs path active) := by
  unfold castExtra
  cases hadditional : s.additional with
  | unspecified =>
    dsimp only
    split
    · exact .pure h
    · exact .pure (.of_forall₂ .nil)
  | flag allowed =>
    cases allowed with
    | true => exact .pure h
    | false => exact .pure (.of_forall₂ .nil)
  | schema node =>
    refine .mapM_permuted h fun e f hef => ?_
    rw [hef.1]
    exact (hchild node hadditional _ _ _ _ hef.2).bind fun r r' hr => .pure ⟨rfl, hr⟩

/-- Casts of objects come to the same. -/
lemma castObject_concurs (h : v.Reordered w) (hnames : (s.declared.map Prod.fst).Nodup)
    (hchild : ∀ c ∈ s.partNodes, CastsNoKeyOrder child c) :
    Concurs Value.Reordered (castObject child s v path active)
      (castObject child s w path active) := by
  unfold castObject
  match v.objectView? s.required, w.objectView? s.required, h.objectView? s.required with
  | _, _, .none => exact .fail _ _ _ _ _ _
  | _, _, .some hes =>
    have hextra := undeclared_permuted (s := s) hes
    dsimp only
    rw [requireNames_reordered hes]
    refine (Concurs.same _).bind fun _ _ _ => ?_
    refine (refuseExtra_concurs hextra).bind fun _ _ _ => ?_
    refine (castDeclared_concurs hes fun p hp =>
      hchild p.2 (Keywords.mem_partNodes_declared hp)).bind_result ?_
    intro declared declared' hd hd' hdeclared
    refine (castExtra_concurs hextra fun c hc =>
      hchild c (Keywords.mem_partNodes_additional hc)).bind_result ?_
    intro others others' ho ho' hothers
    have hresult := (Permuted.of_forall₂ hdeclared).append hothers
    rw [hresult.length_eq]
    refine (Concurs.same _).bind fun _ _ _ => .pure (.of_entries (.of_permuted ?_ ?_ hresult))
    · exact castObject_named hes.left hnames hd ho
    · exact castObject_named hes.right hnames hd' ho'

/-- Casts of arrays come to the same. -/
lemma castArray_concurs (h : v.Reordered w)
    (hchild : ∀ c ∈ s.partNodes, CastsNoKeyOrder child c) :
    Concurs Value.Reordered (castArray child s v path active)
      (castArray child s w path active) := by
  have hcastItems : ∀ {vs ws}, List.Forall₂ Value.Reordered vs ws →
      Concurs (List.Forall₂ Value.Reordered) (castItems child s vs path active)
        (castItems child s ws path active) := by
    intro vs ws hvs
    unfold castItems
    cases hnode : s.items with
    | none => exact .pure hvs
    | some node =>
      refine .mapM (forall₂_zipIdx hvs 0) fun x y hxy => ?_
      rw [hxy.2]
      exact hchild node (Keywords.mem_partNodes_items hnode) _ _ _ _ hxy.1
  unfold castArray
  match v.items?, w.items?, h.items? with
  | _, _, .none => exact .fail _ _ _ _ _ _
  | _, _, .some hvs =>
    dsimp only
    refine (hcastItems hvs).bind fun rs rs' hrs => ?_
    have hfirst : firstRepeated [] 0 rs = firstRepeated [] 0 rs' :=
      Conformance.firstRepeated_sameData .nil (hrs.imp fun _ _ => Value.Reordered.sameData)
    unfold requireUnique
    rw [hrs.length_eq, hfirst]
    refine (Concurs.same _).bind fun _ _ _ => (Concurs.same _).bind fun _ _ _ => .pure ?_
    exact .list hrs.length_eq fun p hp => (List.forall₂_iff_zip.1 hrs).2 hp

/-- **Casts by the shape of a schema** come to the same. -/
lemma castOwn_concurs (h : v.Reordered w) (hnames : (s.declared.map Prod.fst).Nodup)
    (hchild : ∀ c ∈ s.partNodes, CastsNoKeyOrder child c) :
    Concurs Value.Reordered (castOwn child s v path active) (castOwn child s w path active) := by
  have hobject : castsObject s v = castsObject s w := by
    unfold castsObject
    rw [h.isObject_eq]
  have harray : castsArray s v = castsArray s w := by
    unfold castsArray
    rw [h.isArray_eq]
  unfold castOwn
  rw [hobject, harray]
  split
  · exact castObject_concurs h hnames hchild
  · split
    · exact castArray_concurs h hchild
    · refine (castScalar_concurs h).bind fun r r' hr => ?_
      refine (Concurs.require ?_).bind fun _ _ _ => .pure hr
      rw [checkScalar_reordered hr]
      refine (findings_same _).bind fun scalar scalar' hscalar => .ok ?_
      exact ((checkEnum_reordered hr).append hscalar).isEmpty_eq

/-! ## Composition -/

/-- Casts by the members of a composition come to the same. -/
lemma castMembers_concurs {nodes : List Node} (hchild : ∀ c ∈ nodes, CastsNoKeyOrder child c)
    {merged merged' source source' : Entries} (hmerged : merged.Reordered merged')
    (hsource : source.Reordered source') :
    Concurs Value.Reordered (castMembers child path active merged source nodes)
      (castMembers child path active merged' source' nodes) := by
  induction nodes generalizing merged merged' source source' with
  | nil => exact .pure (.of_entries hmerged)
  | cons c nodes ih =>
    unfold castMembers
    refine (hchild c List.mem_cons_self _ _ _ _ (.of_entries hsource)).bind fun r r' hr => ?_
    rw [hr.isObject_eq]
    split
    · exact ih (fun c' hc' => hchild c' (List.mem_cons_of_mem c hc')) (hmerged.merge hr.entries)
        (hsource.merge hr.entries)
    · exact .fail _ _ _ _ _ _

/-- Casts by one node after another come to the same. -/
lemma castInTurn_concurs {nodes : List Node} (hchild : ∀ c ∈ nodes, CastsNoKeyOrder child c)
    (h : v.Reordered w) :
    Concurs Value.Reordered (castInTurn child path active v nodes)
      (castInTurn child path active w nodes) := by
  induction nodes generalizing v w with
  | nil => exact .pure h
  | cons c nodes ih =>
    unfold castInTurn
    refine (hchild c List.mem_cons_self _ _ _ _ h).bind fun r r' hr => ?_
    exact ih (fun c' hc' => hchild c' (List.mem_cons_of_mem c hc')) hr

/-- What is put over a value is put over it in some order. -/
lemma overlay_reordered (h : v.Reordered w) (hown : own.Reordered own') :
    (overlay v own).Reordered (overlay w own') :=
  h.entries.merge hown.entries

/-- **Casts by all members** come to the same. -/
lemma castAllOf_concurs (h : v.Reordered w) (hown : own.Reordered own')
    (hchild : ∀ c ∈ s.allOfList, CastsNoKeyOrder child c) :
    Concurs Value.Reordered (castAllOf child s v own path active)
      (castAllOf child s w own' path active) := by
  unfold castAllOf
  rw [h.isObject_eq]
  split
  · exact .pure hown
  · split
    · refine castMembers_concurs hchild ?_ (overlay_reordered h hown)
      split
      · exact hown.entries
      · exact .nil
    · exact castInTurn_concurs hchild hown

/-- What a schema and the alternative that was chosen make together differs only in the order of
properties. -/
lemma combine_reordered {chosen chosen' : Value} (hown : own.Reordered own')
    (hchosen : chosen.Reordered chosen') :
    (combine s own chosen).Reordered (combine s own' chosen') := by
  unfold combine
  rw [hown.isObject_eq, hchosen.isObject_eq]
  split
  · exact hchosen
  · split
    · exact .of_entries (hown.entries.merge hchosen.entries)
    · exact hchosen

/-- The first alternatives that fit come to the same: each alternative fails for both values or for
neither, and what it makes conforms to it for both or for neither. -/
lemma firstMatch_concurs {nodes : List Node} (h : v.Reordered w) (hcheck : SeesNoKeyOrder check)
    (hchild : ∀ c ∈ nodes, CastsNoKeyOrder child c) (index : Nat) :
    Concurs (Option.Rel fun a b => a.2.Reordered b.2)
      (firstMatch child check v path active index nodes)
      (firstMatch child check w path active index nodes) := by
  induction nodes generalizing index with
  | nil => exact .pure .none
  | cons c nodes ih =>
    have hrest := ih (fun c' hc' => hchild c' (List.mem_cons_of_mem c hc')) (index + 1)
    unfold firstMatch
    refine (Concurs.attempt (hchild c List.mem_cons_self _ _ _ _ h)).bind fun r? r?' hr => ?_
    cases hr with
    | none => exact hrest
    | some hr =>
      have hconforms := conforms_agree
        ((hcheck c _ _ path hr).mono fun _ _ => SameFindings.isEmpty_eq)
      refine (Concurs.guarded hconforms).bind ?_
      rintro fits _ rfl
      split
      · exact .pure (.some hr)
      · exact hrest

/-- **Casts by alternatives** come to the same. -/
lemma castAlternative_concurs (h : v.Reordered w) (hown : own.Reordered own')
    (hcheck : SeesNoKeyOrder check) (hchild : ∀ c ∈ alternatives s, CastsNoKeyOrder child c) :
    Concurs Value.Reordered (castAlternative child check s v own path active)
      (castAlternative child check s w own' path active) := by
  unfold castAlternative
  split
  · have hsource : (if v.isObject then .mapping (overlay v own) else own : Value).Reordered
        (if w.isObject then .mapping (overlay w own') else own') := by
      rw [h.isObject_eq]
      split
      · exact .of_entries (overlay_reordered h hown)
      · exact hown
    refine (firstMatch_concurs hsource hcheck hchild 0).bind fun m m' hm => ?_
    cases hm with
    | none => exact .fail _ _ _ _ _ _
    | some hchosen =>
      exact (Concurs.same _).bind fun _ _ _ => .pure (combine_reordered hown hchosen)
  · exact .pure hown

/-! ## Schemas -/

/-- Composed values are refused alike. -/
lemma requireWhole_concurs (h : v.Reordered w) (hcheck : SeesNoKeyOrder check) :
    Concurs (fun _ _ => True) (requireWhole check s v path) (requireWhole check s w path) := by
  have hnone : ∀ node, AgreeOnNone (check node v path) (check node w path) := fun node =>
    (hcheck node v w path h).mono fun _ _ => SameFindings.isEmpty_eq
  rw [requireWhole_eq, requireWhole_eq]
  have hrequire : Concurs (fun _ _ => True)
      (if s.isComposed then require (check (.schema s.withoutAlternatives) v path) else pure ())
      (if s.isComposed then require (check (.schema s.withoutAlternatives) w path)
        else pure ()) := by
    split
    · exact .require (hnone _)
    · exact .pure trivial
  refine hrequire.bind fun _ _ _ => ?_
  unfold refuseMatch
  cases s.notSchema with
  | none => exact .pure trivial
  | some node =>
    refine (Concurs.guarded (conforms_agree (hnone node))).bind ?_
    rintro matching _ rfl
    split
    · exact .fail _ _ _ _ _ _
    · exact .pure trivial

/-- The same schema is selected, or none, or the discriminator is refused alike. -/
lemma dispatch_concurs {registry : Registry} (h : v.Reordered w)
    (hchild : s.discriminator.isSome = true → ∀ target, (registry.get? target).isSome = true →
      CastsNoKeyOrder child (.ref target)) :
    Concurs (Option.Rel Value.Reordered) (dispatch child registry s v path active)
      (dispatch child registry s w path active) := by
  unfold dispatch
  cases hd : s.discriminator with
  | none => exact .pure .none
  | some d =>
    rw [hd] at hchild
    cases h with
    | @scalar v hscalar => cases v <;> first | exact .pure .none | cases hscalar
    | list _ _ | tuple _ _ => exact .pure .none
    | @mapping es fs hes hfs hsame hall =>
      have hmapping : (Value.mapping es).Reordered (.mapping fs) := .mapping hes hfs hsame hall
      dsimp only
      match es.get? (.str d.propertyName), fs.get? (.str d.propertyName),
        hmapping.entries_mapping.get? d.propertyName with
      | _, _, .none => exact .pure .none
      | _, _, .some (a := tag) (b := tag') htag =>
        have htarget : d.target? tag = d.target? tag' := by cases htag <;> rfl
        dsimp only
        rw [htarget]
        cases d.target? tag' with
        | none => exact .fail _ _ _ _ _ _
        | some target =>
          dsimp only
          split
          · exact .pure .none
          · cases hget : registry.get? target with
            | none => exact .fail _ _ _ _ _ _
            | some node =>
              have hcast := hchild rfl target (by rw [hget]; rfl) _ _ path active hmapping
              have hemit : Concurs (fun _ _ => True)
                  (Traced.emit (.dispatched d.propertyName tag path target))
                  (Traced.emit (.dispatched d.propertyName tag' path target)) := .ok trivial
              exact hemit.bind fun _ _ _ => hcast.bind fun r r' hr => .pure (.some hr)

/-- **Casts by a schema** that builds no record come to the same, given casts by the nodes that it
leads to. -/
lemma castSchema_concurs {context : CastContext} (h : v.Reordered w)
    (htarget : s.targetType = .absent) (hnames : (s.declared.map Prod.fst).Nodup)
    (hcheck : SeesNoKeyOrder check)
    (hselected : s.discriminator.isSome = true → ∀ target,
      (context.registry.get? target).isSome = true → CastsNoKeyOrder child (.ref target))
    (hchild : ∀ c ∈ s.children, CastsNoKeyOrder child c) :
    Concurs Value.Reordered (castSchema context child check s v path active)
      (castSchema context child check s w path active) := by
  have hparts : ∀ c ∈ s.partNodes, CastsNoKeyOrder child c := fun c hc =>
    hchild c (Keywords.mem_children_of_part hc)
  have hmembers : ∀ c ∈ s.allOfList, CastsNoKeyOrder child c := fun c hc =>
    hchild c (Keywords.mem_children_of_same (Keywords.mem_sameNodes_allOf hc))
  have halternatives : ∀ c ∈ alternatives s, CastsNoKeyOrder child c := fun c hc =>
    hchild c (Leeway.mem_children_of_alternatives hc)
  have hcomposed : Concurs Value.Reordered (castComposed context child check s v path active)
      (castComposed context child check s w path active) := by
    unfold castComposed
    refine (castOwn_concurs h hnames hparts).bind fun own own' hown => ?_
    refine (castAllOf_concurs h hown hmembers).bind fun all all' hall => ?_
    refine (castAlternative_concurs h hall hcheck halternatives).bind fun r r' hr => ?_
    refine (requireWhole_concurs hr hcheck).bind fun _ _ _ => ?_
    rw [materialize_eq_pure htarget, materialize_eq_pure htarget]
    exact .pure hr
  unfold castSchema
  rw [h.isNull_eq]
  split
  · exact .pure (.scalar rfl)
  · split
    · exact .fail _ _ _ _ _ _
    · refine (dispatch_concurs h hselected).bind fun r? r?' hr => ?_
      cases hr with
      | none => exact hcomposed
      | some hr => exact .pure hr

end Casting

/-! ## Nodes -/

/-- No schema that a node leads to, along all that a cast can go on with, asks for records, and each
declares its properties once. -/
structure Registry.BuildsMappings (registry : Registry) (node : Node) : Prop where
  /-- No records are built. -/
  noRecords : registry.BuildsNoRecords node
  /-- Properties are declared once. -/
  nodup : ∀ s, registry.Reaches registry.steps node s → (s.declared.map Prod.fst).Nodup

namespace Registry.BuildsMappings

variable {registry : Registry} {s : Schema}

/-- Where a reference builds mappings, its target does. -/
lemma ref {name : String} {node : Node} (h : registry.BuildsMappings (.ref name))
    (hget : registry.get? name = some node) : registry.BuildsMappings node :=
  ⟨h.noRecords.ref hget, fun t ht => h.nodup t (.ref hget ht)⟩

/-- Where a schema builds mappings, the nodes below it do. -/
lemma below {c : Node} (h : registry.BuildsMappings (.schema s)) (hc : c ∈ s.children) :
    registry.BuildsMappings c :=
  ⟨h.noRecords.below hc, fun t ht => h.nodup t (.child (List.mem_append_left _ hc) ht)⟩

/-- Where a schema builds mappings, what it selects does. -/
lemma selected {name : String} (h : registry.BuildsMappings (.schema s))
    (hsome : s.discriminator.isSome = true) (hname : (registry.get? name).isSome = true) :
    registry.BuildsMappings (.ref name) :=
  ⟨h.noRecords.selected hsome hname,
    fun t ht => h.nodup t (.child (registry.ref_mem_steps hsome hname) ht)⟩

end Registry.BuildsMappings

namespace Casting

/-- **Casts by a node** come to the same with values that differ only in the order of properties, at
every depth, if no records are built.

**Proof sketch.** Induction on the depth. A name comes to what its target comes to, a schema that
selects another to what that one comes to, and every other schema casts step by step; the checks
in between have the same findings. -/
theorem castNode_concurs {context : CastContext} (depth : Nat) {node : Node}
    (hnode : context.registry.BuildsMappings node) :
    CastsNoKeyOrder (castNode context depth) node := by
  induction depth, node using context.registry.node_induction with
  | zero node => exact fun v w path active _ => .left _ _
  | unknown depth name hget =>
    intro v w path active _
    rw [castNode_unknown hget, castNode_unknown hget]
    exact .fail _ _ _ _ _ _
  | named depth name s hget ih =>
    intro v w path active h
    rw [castNode_named hget, castNode_named hget]
    exact ih (hnode.ref hget) v w path _ h
  | link depth name other hget ih =>
    intro v w path active h
    rw [castNode_link hget, castNode_link hget]
    exact ih (hnode.ref hget) v w path _ h
  | schema depth s ih =>
    intro v w path active h
    exact castSchema_concurs h (hnode.noRecords s (.here s)) (hnode.nodup s (.here s))
      (Validation.checkNode_reordered _ _ depth)
      (fun hsome target htarget => ih (.ref target) (hnode.selected hsome htarget))
      fun c hc => ih c (hnode.below hc)

end Casting

/-! ## Whole values -/

/-- Two casts of whole values come to the same: values that differ only in the order of properties,
or failures. -/
inductive CastResult.Reordered : CastResult → CastResult → Prop
  /-- Both succeed. -/
  | ok {v w : Value} : v.Reordered w → CastResult.Reordered (.ok v) (.ok w)
  /-- Both fail. -/
  | failed (is js : List Issue) : CastResult.Reordered (.failed is) (.failed js)

/-- **The order of properties never changes a verdict**: with two values that differ only in the
order of properties, at any depth, validation finds issues of the same kinds at the same places,
each as often, if neither check stops. If no records are built, a cast succeeds with both or with
neither if neither stops, and what it makes of them differs only in the order of properties. -/
theorem reordered_alike (registry : Registry) (types : TypeMap) (limit : Int) (node : Node)
    {v w : Value} (h : v.Reordered w) :
    (∀ is js, validate registry node v limit = .ok is → validate registry node w limit = .ok js →
      SameFindings is js) ∧
    (registry.BuildsMappings node → ∀ a b,
      (cast ⟨registry, types, limit⟩ node v).outcome = .ok a →
      (cast ⟨registry, types, limit⟩ node w).outcome = .ok b → a.Reordered b) := by
  refine ⟨Validation.checkNode_reordered registry limit limit.toNat node v w [] h, ?_⟩
  intro hnode a b ha hb
  have hcast : Casting.Concurs Value.Reordered
      (Casting.castNode ⟨registry, types, limit⟩ limit.toNat node v [] [])
      (Casting.castNode ⟨registry, types, limit⟩ limit.toNat node w [] []) :=
    Casting.castNode_concurs limit.toNat hnode v w [] [] h
  unfold cast at ha hb
  unfold Casting.Concurs at hcast
  dsimp only at ha hb
  generalize Casting.castNode ⟨registry, types, limit⟩ limit.toNat node v [] [] = x at ha hcast
  generalize Casting.castNode ⟨registry, types, limit⟩ limit.toNat node w [] [] = y at hb hcast
  obtain ⟨events, p⟩ := x
  obtain ⟨events', q⟩ := y
  dsimp only at hcast
  cases hcast with
  | ok hr =>
    cases ha
    cases hb
    exact .ok hr
  | failed is js =>
    cases ha
    cases hb
    exact .failed is js
  | left f _ => cases ha
  | right _ f => cases hb

/-- A measurement: a whole number, and notes under any other names. -/
def measurement : Schema where
  type := some .object
  properties := some [("value", .schema { type := some .integer })]
  additional := .schema (.schema { type := some .string })

/-- By the schema of measurements objects are cast to mappings. -/
lemma measurement_buildsMappings : Registry.BuildsMappings ⟨[]⟩ (.schema measurement) := by
  have hschemas : ∀ s, Registry.Reaches ⟨[]⟩ (Registry.steps ⟨[]⟩) (.schema measurement) s →
      s.targetType = .absent ∧ (s.declared.map Prod.fst).Nodup := by
    intro s hs
    cases hs with
    | here => exact ⟨rfl, by decide⟩
    | @child _ c _ hc hs =>
      have hleaf : ∃ t, c = .schema { type := some t } := by
        have hsteps : Registry.steps ⟨[]⟩ measurement =
          [.schema { type := some .integer }, .schema { type := some .string }] := rfl
        rw [hsteps] at hc
        simp only [List.mem_cons, List.not_mem_nil, or_false] at hc
        exact hc.elim (fun h => ⟨_, h⟩) fun h => ⟨_, h⟩
      obtain ⟨t, rfl⟩ := hleaf
      cases hs with
      | here => exact ⟨rfl, .nil⟩
      | child hc _ => cases hc
  exact ⟨fun s hs => (hschemas s hs).1, fun s hs => (hschemas s hs).2⟩

/-- A measurement with notes around the number. -/
def measured : Value :=
  .mapping [(.str "b", .str "y"), (.str "value", .str "3"), (.str "a", .str "x")]

/-- The same measurement with the number last. -/
def measuredLast : Value :=
  .mapping [(.str "a", .str "x"), (.str "b", .str "y"), (.str "value", .str "3")]

/-- A measurement that is written as a text is found in whatever order its notes come, and it
becomes a whole number. -/
theorem measurements_alike :
    measured.Reordered measuredLast ∧ Registry.BuildsMappings ⟨[]⟩ (.schema measurement) ∧
    (∃ is js, validate ⟨[]⟩ (.schema measurement) measured 9 = .ok is ∧
      validate ⟨[]⟩ (.schema measurement) measuredLast 9 = .ok js ∧
      is.map Issue.kind = [.wrongType] ∧ SameFindings is js) ∧
    ∃ r r', (cast ⟨⟨[]⟩, .generic, 9⟩ (.schema measurement) measured).outcome = .ok (.ok r) ∧
      (cast ⟨⟨[]⟩, .generic, 9⟩ (.schema measurement) measuredLast).outcome = .ok (.ok r') ∧
      r.Reordered r' := by
  have hmeasured : measured.Reordered measuredLast := by
    refine .of_perm ⟨by simp, by simp⟩ (List.perm_append_singleton _ [_, _]) fun e he => ?_
    simp only [List.mem_cons, List.not_mem_nil, or_false] at he
    rcases he with rfl | rfl | rfl <;> exact .scalar rfl
  obtain ⟨hcheck, hcast⟩ := reordered_alike ⟨[]⟩ .generic 9 (.schema measurement) hmeasured
  obtain ⟨is, his, hkinds⟩ : ∃ is, validate ⟨[]⟩ (.schema measurement) measured 9 = .ok is ∧
      is.map Issue.kind = [.wrongType] := exists_ok_of_kinds (by decide +kernel)
  obtain ⟨js, hjs, -⟩ : ∃ js, validate ⟨[]⟩ (.schema measurement) measuredLast 9 = .ok js ∧
      js.map Issue.kind = [.wrongType] := exists_ok_of_kinds (by decide +kernel)
  have hfirst : (cast ⟨⟨[]⟩, .generic, 9⟩ (.schema measurement) measured).outcome = .ok (.ok
      (.mapping [(.str "value", .int 3), (.str "b", .str "y"), (.str "a", .str "x")])) := by cbv
  have hlast : (cast ⟨⟨[]⟩, .generic, 9⟩ (.schema measurement) measuredLast).outcome = .ok (.ok
      (.mapping [(.str "value", .int 3), (.str "a", .str "x"), (.str "b", .str "y")])) := by cbv
  refine ⟨hmeasured, measurement_buildsMappings,
    ⟨is, js, his, hjs, hkinds, hcheck is js his hjs⟩, _, _, hfirst, hlast, ?_⟩
  cases hcast measurement_buildsMappings _ _ hfirst hlast with
  | ok h => exact h

end DataSchema
