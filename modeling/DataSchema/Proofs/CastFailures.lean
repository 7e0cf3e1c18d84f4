import DataSchema.Proofs.CastRelations
import DataSchema.Proofs.CastSteps
import DataSchema.Proofs.Nesting
import DataSchema.Proofs.Reachability

set_option autoImplicit false

/-!
# How casts fail

A cast by a schema fails as one of its steps does. The steps that ask no other node fail with an
issue of the value itself or in a way of their own; all others fail as the cast of a part does, as
the cast or the check by a member, or as the schema that a discriminator selects. What is allowed of
all of these is therefore allowed of the schema. Why casts stop and where they fail are two cases of
this.

## Main definitions

* `DataSchema.Casting.FailsOnly` — casts that fail in given ways at most.
* `DataSchema.Casting.IsLocal` — ways to fail at a location that are closed under going up.
* `DataSchema.Casting.OwnFailsOnly` — schemas whose own steps fail in given ways at most.

## Main results

* `DataSchema.Casting.castOwn_failsOnly`, `DataSchema.Casting.castAllOf_failsOnly`,
  `DataSchema.Casting.castAlternative_failsOnly`, `DataSchema.Casting.dispatch_failsOnly`,
  `DataSchema.Casting.requireWhole_failsOnly` — the steps of a cast.
* `DataSchema.Casting.castSchema_failsOnly` — casts by a schema.
-/

namespace DataSchema

namespace Casting

open Keywords

variable {α β : Type}

/-- A cast fails, if at all, in one of the given ways. -/
def FailsOnly (Q : CastFailure → Prop) (x : Casts α) : Prop := ∀ e, x.outcome = .error e → Q e

namespace FailsOnly

variable {Q Q' : CastFailure → Prop}

/-- A result is no failure. -/
lemma pure (a : α) : FailsOnly Q (Pure.pure a : Casts α) := fun e he => by cases he

/-- An event is no failure. -/
lemma emit (event : Event) : FailsOnly Q (Traced.emit event : Casts Unit) :=
  fun e he => by cases he

/-- One issue that is allowed. -/
lemma fail {kind : IssueKind} {message : String} {path : Path}
    (h : Q (.issues [⟨kind, message, path⟩])) :
    FailsOnly Q (Casting.fail kind message path : Casts α) := by
  rintro e ⟨⟩
  exact h

/-- A fault that is allowed. -/
lemma stop {f : Fault} (h : Q (.fault f)) : FailsOnly Q (Casting.stop f : Casts α) := by
  rintro e ⟨⟩
  exact h

/-- Failures of one kind are failures of every kind that has all of these. -/
lemma mono {x : Casts α} (h : FailsOnly Q x) (hQ : ∀ e, Q e → Q' e) : FailsOnly Q' x :=
  fun e he => hQ e (h e he)

/-- Casts in a row fail as one of them does, the second with what the first made. -/
lemma bind_result {x : Casts α} {g : α → Casts β} (hx : FailsOnly Q x)
    (hg : ∀ a, x.outcome = .ok a → FailsOnly Q (g a)) : FailsOnly Q (x >>= g) := by
  intro e he
  rcases bind_outcome_error.1 he with he | ⟨a, ha, he⟩
  · exact hx e he
  · exact hg a ha e he

/-- Casts in a row fail as one of them does, the second whatever the first made. -/
lemma bind {x : Casts α} {g : α → Casts β} (hx : FailsOnly Q x) (hg : ∀ a, FailsOnly Q (g a)) :
    FailsOnly Q (x >>= g) :=
  hx.bind_result fun a _ => hg a

/-- Casts of several things fail as one of them does. -/
lemma mapM {xs : List α} {g : α → Casts β} (h : ∀ x ∈ xs, FailsOnly Q (g x)) :
    FailsOnly Q (xs.mapM g) := by
  intro e he
  rw [Traced.outcome_mapM] at he
  obtain ⟨x, hx, he⟩ := mapM_eq_error he
  exact h x hx e he

/-- A check as a cast fails with its fault. -/
lemma guarded {x : Except Fault α} (h : ∀ f, x = .error f → Q (.fault f)) :
    FailsOnly Q (Casting.guarded x) := by
  intro e he
  obtain ⟨f, hf, rfl⟩ := guarded_outcome_error.1 he
  exact h f hf

/-- A requirement fails with the fault of its check, or with the issues that it finds. -/
lemma require {check : Check} (hfault : ∀ f, check = .error f → Q (.fault f))
    (hissues : ∀ is, check = .ok is → is ≠ [] → Q (.issues is)) :
    FailsOnly Q (Casting.require check) := by
  refine (guarded hfault).bind_result fun is his => ?_
  cases is with
  | nil => exact .pure ()
  | cons i is =>
    rintro e ⟨⟩
    exact hissues _ (guarded_outcome_ok.1 his) (List.cons_ne_nil i is)

/-- A cast that is tried fails as the cast does. -/
lemma attempt {x : Casts Value} (h : FailsOnly Q x) : FailsOnly Q (Casting.attempt x) := by
  obtain ⟨events, (is | f) | v⟩ := x
  · exact fun e he => by cases he
  · rintro e ⟨⟩
    exact h _ rfl
  · exact fun e he => by cases he

end FailsOnly

/-! ## What no other node is asked about -/

/-- Ways to fail at a location, among which are an issue of the value there and all failures of its
parts. -/
structure IsLocal (Q : Path → CastFailure → Prop) : Prop where
  /-- One issue of the value itself. -/
  issue : ∀ kind message path, Q path (.issues [⟨kind, message, path⟩])
  /-- A failure of a part. -/
  part : ∀ path token e, Q (path ++ [token]) e → Q path e

/-- What a schema makes of a value without another node fails in given ways at most. -/
structure OwnFailsOnly (Q : Path → CastFailure → Prop) (s : Schema) : Prop where
  /-- The conversion. -/
  conversion : ∀ v path, FailsOnly (Q path) (castScalar s v path)
  /-- What is asked of a converted value. -/
  scalar : ∀ v path, FailsOnly (Q path) (require do
    let scalar ← Validation.checkScalar s v path
    return Validation.checkEnum s v path ++ scalar)
  /-- The required names. -/
  names : ∀ data path, FailsOnly (Q path) (requireNames s data path)
  /-- The properties that must not be there. -/
  extra : ∀ extra path, FailsOnly (Q path) (refuseExtra s extra path)
  /-- The least numbers of things. -/
  below : ∀ keyword ∈ [s.minProperties, s.minItems], ∀ n path f,
    Validation.below n keyword = .error f → Q path (.fault f)
  /-- The greatest numbers of things. -/
  above : ∀ keyword ∈ [s.maxProperties, s.maxItems], ∀ n path f,
    Validation.above n keyword = .error f → Q path (.fault f)
  /-- The record. -/
  record : ∀ types v path, FailsOnly (Q path) (materialize types s v path)

variable {Q : Path → CastFailure → Prop} (hQ : IsLocal Q) {s : Schema} {path : Path}

include hQ

/-- A number of things that is not asked for is an issue of the value itself. -/
lemma requireCount_failsOnly {count : Nat} {least most : Value}
    (hleast : ∀ f, Validation.below count least = .error f → Q path (.fault f))
    (hmost : ∀ f, Validation.above count most = .error f → Q path (.fault f))
    (container things : String) :
    FailsOnly (Q path) (requireCount count least most container things path) := by
  have hmany : FailsOnly (Q path) (do
      let many ← guarded (Validation.above count most)
      if many then
        failCast (container ++ " has more than " ++ most.text ++ " " ++ things) path) := by
    refine (FailsOnly.guarded hmost).bind fun many => ?_
    split
    · exact .fail (hQ.issue _ _ path)
    · exact .pure _
  unfold requireCount
  refine (FailsOnly.guarded hleast).bind fun few => ?_
  split
  · exact FailsOnly.bind (.fail (hQ.issue _ _ path)) fun _ => hmany
  · exact hmany

/-- Repeated items are an issue of the value itself. -/
lemma requireUnique_failsOnly (s : Schema) (items : List Value) :
    FailsOnly (Q path) (requireUnique s items path) := by
  unfold requireUnique
  split
  · split
    · exact .fail (hQ.issue _ _ path)
    · exact .pure _
  · exact .pure _

variable {child : NodeCaster} {v : Value} {active : List String} (hs : OwnFailsOnly Q s)

/-! ## Objects and arrays -/

section

variable
  (hpart : ∀ c ∈ s.partNodes, ∀ w, v.HasPart w → ∀ path, FailsOnly (Q path) (child c w path active))

include hpart

/-- The cast of declared properties fails as that of one of them does. -/
lemma castDeclared_failsOnly {required : List Value} {data : Entries}
    (hview : v.objectView? required = some data) {ps : List (String × Node)}
    (hps : ∀ p ∈ ps, p.2 ∈ s.partNodes) :
    FailsOnly (Q path) (castDeclared child data path active ps) := by
  induction ps with
  | nil => exact .pure _
  | cons p ps ih =>
    have hrest := ih fun p' hp' => hps p' (List.mem_cons_of_mem p hp')
    unfold castDeclared
    split
    next => exact hrest
    next w hw =>
      have hproperty := hpart p.2 (hps p List.mem_cons_self) w (.get hview hw) (path ++ [.str p.1])
      exact (hproperty.mono (hQ.part path _)).bind fun cast => hrest.bind fun others => .pure _

/-- The cast of undeclared properties fails as that of one of them does. -/
lemma castExtra_failsOnly {extra : Entries} (hextra : ∀ e ∈ extra, v.HasPart e.2) :
    FailsOnly (Q path) (castExtra child s extra path active) := by
  unfold castExtra
  split
  next => exact .pure _
  next => exact .pure _
  next => exact .pure _
  next node hnode =>
    refine .mapM fun e he => ?_
    have hproperty := hpart node (mem_partNodes_additional hnode) e.2 (hextra e he) (path ++ [e.1])
    exact (hproperty.mono (hQ.part path _)).bind fun cast => .pure _

/-- The cast of items fails as that of one of them does. -/
lemma castItems_failsOnly {items : List Value} (hitems : v.items? = some items) :
    FailsOnly (Q path) (castItems child s items path active) := by
  unfold castItems
  split
  next => exact .pure _
  next node hnode =>
    refine .mapM fun item hitem => ?_
    have hmem : item.1 ∈ items := List.fst_mem_of_mem_zipIdx hitem
    exact (hpart node (mem_partNodes_items hnode) item.1 (.item hitems hmem) _).mono (hQ.part path _)

include hs

/-- The cast of an object fails as the schema does, or as the cast of a property. -/
lemma castObject_failsOnly : FailsOnly (Q path) (castObject child s v path active) := by
  unfold castObject
  split
  next => exact .fail (hQ.issue _ _ path)
  next data hview =>
    have hundeclared : ∀ e ∈ Validation.undeclared s data, v.HasPart e.2 :=
      fun e he => .property hview (List.mem_filter.1 he).1
    refine (hs.names data path).bind fun _ => (hs.extra _ path).bind fun _ => ?_
    refine (castDeclared_failsOnly hQ hpart hview fun p hp => mem_partNodes_declared hp).bind
      fun declared => ?_
    refine (castExtra_failsOnly hQ hpart hundeclared).bind fun others => ?_
    refine (requireCount_failsOnly hQ ?_ ?_ _ _).bind fun _ => .pure _
    · exact hs.below _ (by simp) _ path
    · exact hs.above _ (by simp) _ path

/-- The cast of an array fails as the schema does, or as the cast of an item. -/
lemma castArray_failsOnly : FailsOnly (Q path) (castArray child s v path active) := by
  unfold castArray
  split
  next => exact .fail (hQ.issue _ _ path)
  next items hitems =>
    refine (castItems_failsOnly hQ hpart hitems).bind fun result => ?_
    refine FailsOnly.bind (requireCount_failsOnly hQ ?_ ?_ _ _) fun _ => ?_
    · exact hs.below _ (by simp) _ path
    · exact hs.above _ (by simp) _ path
    · exact (requireUnique_failsOnly hQ s result).bind fun _ => .pure _

/-- **The cast by the shape of a schema** fails as the schema does, or as the cast of a part. -/
lemma castOwn_failsOnly : FailsOnly (Q path) (castOwn child s v path active) := by
  unfold castOwn
  split
  · exact castObject_failsOnly hQ hs hpart
  · split
    · exact castArray_failsOnly hQ hs hpart
    · refine (hs.conversion v path).bind fun result => ?_
      exact (hs.scalar result path).bind fun _ => .pure _

end

/-! ## Composition -/

/- What the value becomes on the way is not known, so that the casts by nodes for the value itself
are taken at all values that stand in a relation to it which casts keep. -/
variable {R : Value → Value → Prop} (hR : IsKept R)
  (hkept : ∀ c ∈ s.children, ∀ w path r, (child c w path active).outcome = .ok r → R w r)
  (hsame : ∀ c ∈ s.sameNodes, ∀ w, R v w → ∀ path, FailsOnly (Q path) (child c w path active))

include hR hkept hsame

/-- The cast of an object by several members fails as that by one of them does, or because a member
makes no object of it.

**Proof sketch.** Induction on the members. The next one sees what the one before made put over what
that one saw, and this stands in the relation to the value as both do. -/
lemma castMembers_failsOnly {nodes : List Node} (hnodes : ∀ c ∈ nodes, c ∈ s.sameNodes)
    {merged source : Entries} (hsource : R v (.mapping source)) :
    FailsOnly (Q path) (castMembers child path active merged source nodes) := by
  induction nodes generalizing merged source with
  | nil => exact .pure _
  | cons c cs ih =>
    have hc := hnodes c List.mem_cons_self
    refine (hsame c hc _ hsource path).bind_result fun part hpart => ?_
    split
    · have hentries : R (.mapping source) (.mapping part.entries) :=
        hR.entries_of rfl (hkept c (mem_children_of_same hc) _ _ _ hpart)
      refine ih (fun c' hc' => hnodes c' (List.mem_cons_of_mem c hc')) ?_
      exact hR.merge hsource (hR.trans hsource hentries)
    · exact .fail (hQ.issue _ _ path)

omit hQ in
/-- The cast by several nodes in turn fails as that by one of them does. -/
lemma castInTurn_failsOnly {nodes : List Node} (hnodes : ∀ c ∈ nodes, c ∈ s.sameNodes) {w : Value}
    (hw : R v w) : FailsOnly (Q path) (castInTurn child path active w nodes) := by
  induction nodes generalizing w with
  | nil => exact .pure _
  | cons c cs ih =>
    have hc := hnodes c List.mem_cons_self
    refine (hsame c hc w hw path).bind_result fun next hnext => ?_
    refine ih (fun c' hc' => hnodes c' (List.mem_cons_of_mem c hc')) ?_
    exact hR.trans hw (hkept c (mem_children_of_same hc) _ _ _ hnext)

/-- **The cast by the members of a composition** fails as that by one of them does. -/
lemma castAllOf_failsOnly {own : Value} (hown : R v own) :
    FailsOnly (Q path) (castAllOf child s v own path active) := by
  have hmembers : ∀ c ∈ s.allOfList, c ∈ s.sameNodes := fun c hc => mem_sameNodes_allOf hc
  unfold castAllOf
  split
  · exact .pure _
  · split
    next hobject =>
      exact castMembers_failsOnly hQ hR hkept hsame hmembers (hR.overlay hobject hown)
    next => exact castInTurn_failsOnly hR hkept hsame hmembers hown

variable {check : NodeChecker}
  (hcheck : ∀ c ∈ s.sameNodes, ∀ w, R v w → ∀ path f, check c w path = .error f → Q path (.fault f))

include hcheck

omit hQ in
/-- The choice among alternatives fails as the cast by one of them does, or as its check.

**Proof sketch.** Induction on the alternatives. One that is passed over leaves the choice to those
after it, and the check of one that is cast is a check of what became of the value. -/
lemma firstMatch_failsOnly {nodes : List Node} (hnodes : ∀ c ∈ nodes, c ∈ s.sameNodes)
    {source : Value} (hsource : R v source) (index : Nat) :
    FailsOnly (Q path) (firstMatch child check source path active index nodes) := by
  induction nodes generalizing index with
  | nil => exact .pure _
  | cons c cs ih =>
    have hc := hnodes c List.mem_cons_self
    have hrest := ih (fun c' hc' => hnodes c' (List.mem_cons_of_mem c hc')) (index + 1)
    refine (hsame c hc source hsource path).attempt.bind_result fun result? hresult => ?_
    rcases attempt_outcome_ok.1 hresult with ⟨result, hcast, rfl⟩ | ⟨is, -, rfl⟩
    · have hkeeps : R v result :=
        hR.trans hsource (hkept c (mem_children_of_same hc) _ _ _ hcast)
      have hfits : ∀ f, Validation.conforms check c result path = .error f → Q path (.fault f) :=
        fun f hf => hcheck c hc result hkeeps path f (map_eq_error.1 hf)
      refine (FailsOnly.guarded hfits).bind fun fits => ?_
      cases fits with
      | true => exact .pure _
      | false => exact hrest
    · exact hrest

/-- **The cast by alternatives** fails as the choice does, or because there is none. -/
lemma castAlternative_failsOnly {own : Value} (hown : R v own) :
    FailsOnly (Q path) (castAlternative child check s v own path active) := by
  have hsource : R v (if v.isObject then .mapping (overlay v own) else own) := by
    split
    next hobject => exact hR.overlay hobject hown
    next => exact hown
  unfold castAlternative
  split
  · refine (firstMatch_failsOnly hR hkept hsame hcheck
      (fun c hc => mem_sameNodes_of_alternatives hc) hsource 0).bind fun choice? => ?_
    cases choice? with
    | none => exact .fail (hQ.issue _ _ path)
    | some choice => exact (FailsOnly.emit _).bind fun _ => .pure _
  · exact .pure _

omit hR hkept hsame

/-- The check of what must not match fails as the check by that node does. -/
lemma refuseMatch_failsOnly {w : Value} (hw : R v w) :
    FailsOnly (Q path) (refuseMatch check s w path) := by
  unfold refuseMatch
  split
  next => exact .pure _
  next node hnode =>
    have hmatch : ∀ f, Validation.conforms check node w path = .error f → Q path (.fault f) :=
      fun f hf => hcheck node (mem_sameNodes_not hnode) w hw path f (map_eq_error.1 hf)
    refine (FailsOnly.guarded hmatch).bind fun matching => ?_
    split
    · exact .fail (hQ.issue _ _ path)
    · exact .pure _

/-- **What is asked of a composed value** fails as the checks behind it do. -/
lemma requireWhole_failsOnly {w : Value} (hw : R v w)
    (hwhole : FailsOnly (Q path) (require (check (.schema s.withoutAlternatives) w path))) :
    FailsOnly (Q path) (requireWhole check s w path) := by
  rw [requireWhole_eq]
  refine FailsOnly.bind ?_ fun _ => refuseMatch_failsOnly hQ hcheck hw
  split
  · exact hwhole
  · exact .pure _

omit hcheck

/-! ## Schemas -/

/-- **The cast by a discriminator** fails at the value, at its tag, or as the selected schema
does. -/
lemma dispatch_failsOnly {registry : Registry}
    (hselected : s.discriminator.isSome → ∀ target, (registry.get? target).isSome →
      target ∉ active → FailsOnly (Q path) (child (.ref target) v path active)) :
    FailsOnly (Q path) (dispatch child registry s v path active) := by
  unfold dispatch
  split
  next d es hd =>
    have htag : ∀ message, FailsOnly (Q path)
        (failCast message (path ++ [.str d.propertyName]) : Casts (Option Value)) :=
      fun message => .fail (hQ.part path _ _ (hQ.issue _ message _))
    dsimp only
    split
    next => exact .pure _
    next =>
      split
      next => exact htag _
      next target _ =>
        split
        next => exact .pure _
        next hactive =>
          split
          next => exact htag _
          next hsome =>
            rw [Option.isNone_iff_eq_none, ← ne_eq, ← Option.isSome_iff_ne_none] at hsome
            have hchosen := hselected (by rw [hd]; rfl) target hsome (by simpa using hactive)
            exact (FailsOnly.emit _).bind fun _ => hchosen.bind fun result => .pure _
  next => exact .pure _

include hs hR hkept hsame hcheck

/-- **The cast by a schema fails** as what it makes of the value without another node does, as a
cast or a check by a node below, or as the selected schema.

**Proof sketch.** The steps of a composed cast follow each other, and what each of them makes stands
in the relation to the value, so that the casts and checks after it are among those that are known
to fail in the given ways only. -/
lemma castSchema_failsOnly (context : CastContext)
    (hpart : ∀ c ∈ s.partNodes, ∀ w, v.HasPart w → ∀ path,
      FailsOnly (Q path) (child c w path active))
    (hwhole : ∀ w, R v w →
      FailsOnly (Q path) (require (check (.schema s.withoutAlternatives) w path)))
    (hselected : s.discriminator.isSome → ∀ target, (context.registry.get? target).isSome →
      target ∉ active → FailsOnly (Q path) (child (.ref target) v path active)) :
    FailsOnly (Q path) (castSchema context child check s v path active) := by
  unfold castSchema
  split
  · exact .pure _
  · split
    · exact .fail (hQ.issue _ _ path)
    · refine (dispatch_failsOnly hQ hselected).bind fun selected? => ?_
      cases selected? with
      | some result => exact .pure _
      | none =>
        unfold castComposed
        refine (castOwn_failsOnly hQ hs hpart).bind_result fun own hown => ?_
        have hown : R v own := castOwn_kept hR hkept hown
        refine (castAllOf_failsOnly hQ hR hkept hsame hown).bind_result fun all hall => ?_
        have hall : R v all := castAllOf_kept hR hkept hown hall
        refine (castAlternative_failsOnly hQ hR hkept hsame hcheck hall).bind_result
          fun result hresult => ?_
        have hresult : R v result := castAlternative_kept hR hkept hall hresult
        refine (requireWhole_failsOnly hQ hcheck hresult (hwhole result hresult)).bind fun _ => ?_
        exact hs.record _ result path

end Casting

end DataSchema
