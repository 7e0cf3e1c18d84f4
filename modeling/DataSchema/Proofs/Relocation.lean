import DataSchema.Proofs.Aliases

set_option autoImplicit false

/-!
# Values in other places

A check or a cast can start at any location and with some of the steps down already taken. Neither
matters: it ends like one of the same value on its own, within what is left of the limit, and what
it finds is found there too, at locations that begin where the value stands. So the parts of a value
can be checked on their own.

## Main definitions

* `DataSchema.Issue.under`, `DataSchema.CastResult.under` — what is found of a value, seen from
  where it stands.
* `DataSchema.Validation.checkNodeFrom`, `DataSchema.Casting.castNodeFrom` — checks and casts with
  some steps already taken.
* `DataSchema.Validation.onItsOwn` — values checked as if they stood at the root.

## Main results

* `DataSchema.Leeway.endAlike_elsewhere` — two runs in different places that agree where either is
  within the depth guard.
* `DataSchema.Validation.checkSchema_endAlike` — child nodes that are checked alike make a schema
  checked alike.
* `DataSchema.evaluated_elsewhere` — checks and casts in other places, and checks of parts.
-/

namespace DataSchema

/-! ## Findings in other places -/

/-- A finding about a value that stands at a location. -/
def Issue.under (base : Path) (i : Issue) : Issue := { i with path := base ++ i.path }

/-- What a cast made of a value that stands at a location. -/
def CastResult.under (base : Path) : CastResult → CastResult
  | ok v => ok v
  | failed is => failed (is.map (Issue.under base))

/-- Evaluations end alike either way around. -/
lemma EndAlike.symm {α : Type} {x y : Except Fault α} (h : EndAlike x y) : EndAlike y x := by
  rw [endAlike_iff] at h ⊢
  rcases h with rfl | ⟨f, g, hx, hy, hf, hg⟩
  · exact .inl rfl
  · exact .inr ⟨g, f, hy, hx, hg, hf⟩

namespace Leeway

variable {base : Path}

/-- The same value, or issues that say the same of corresponding locations. -/
inductive SameResults (L : Leeway) : CastResult → CastResult → Prop
  | ok (v : Value) : SameResults L (.ok v) (.ok v)
  | failed {is js : List Issue} :
    List.Forall₂ L.SameIssues is js → SameResults L (.failed is) (.failed js)

/-- Related casts come to related results. -/
lemma SameCasts.verdict {base' : Path} {x y : Casts Value}
    (h : (deeper base base').SameCasts Eq x y) :
    (deeper base base').SameChecks (deeper base base').SameResults (Casting.verdict x)
      (Casting.verdict y) := by
  obtain ⟨es, ox⟩ := x
  obtain ⟨fs, oy⟩ := y
  rcases h with ⟨e, -, hevent⟩ | h
  · cases hevent
  · cases h with
    | excused h => exact .excused h
    | fault h => exact .error h
    | issues h => exact .ok (.failed h)
    | ok h =>
      subst h
      exact .ok (.ok _)

/-- An issue that says the same somewhere else is the issue, seen from there. -/
lemma under_eq_of_sameIssues {i j : Issue} (h : (deeper [] base).SameIssues i j) :
    i.under base = j := by
  obtain ⟨hkind, hmessage, rest, hi, hj⟩ := h
  obtain ⟨kind, message, path⟩ := j
  simp only at hkind hmessage hj
  rw [hj, ← hkind, ← hmessage, Issue.under, hi, List.nil_append]

/-- Issues that say the same somewhere else are the issues, seen from there. -/
lemma map_under_eq {is js : List Issue} (h : List.Forall₂ (deeper [] base).SameIssues is js) :
    is.map (Issue.under base) = js := by
  rw [← List.forall₂_eq_eq_eq, List.forall₂_map_left_iff]
  exact h.imp fun i j hij => under_eq_of_sameIssues hij

/-- Issues that say the same of corresponding locations do so the other way around. -/
lemma sameIssues_symm {base' : Path} {is js : List Issue}
    (h : List.Forall₂ (deeper base base').SameIssues is js) :
    List.Forall₂ (deeper base' base).SameIssues js is := by
  refine h.flip.imp fun j i hij => ?_
  obtain ⟨hkind, hmessage, rest, hi, hj⟩ := hij
  exact ⟨hkind.symm, hmessage.symm, rest, hj, hi⟩

/-- What a cast comes to somewhere else is what it comes to, seen from there. -/
lemma result_under_eq {r r' : CastResult} (h : (deeper [] base).SameResults r r') :
    r.under base = r' := by
  cases h with
  | ok v => rfl
  | failed h => rw [CastResult.under, map_under_eq h]

/-- What a cast comes to is what it comes to somewhere else, seen from there. -/
lemma result_eq_under {r r' : CastResult} (h : (deeper base []).SameResults r' r) :
    r' = r.under base := by
  cases h with
  | ok v => rfl
  | failed h => rw [CastResult.under, map_under_eq (sameIssues_symm h)]

/-- **Runs in different places end alike**, the one seen from where the other stands, if they are
related in either direction: each is excused at the depth guard only, where the other stops too. -/
lemma endAlike_elsewhere {α : Type} {R S : α → α → Prop} {f : α → α} {x z : Except Fault α}
    (hto : (deeper base []).SameChecks R x z) (hfrom : (deeper [] base).SameChecks S z x)
    (hR : ∀ a b, R a b → a = f b) (hS : ∀ a b, S b a → f b = a) : EndAlike x (z.map f) := by
  refine endAlike_of_within (fun hwithin => ?_) fun hwithin => ?_
  · have heq := hto.map_eq_of_within hwithin (f := id) (g := f) hR
    rw [← heq]
    cases x <;> rfl
  · have hz : WithinDepth z := fun g hg => hwithin g (map_eq_error.2 hg)
    have heq := hfrom.map_eq_of_within hz (f := f) (g := id) fun b a h => hS a b h
    rw [heq]
    cases x <;> rfl

end Leeway

/-! ## Checks -/

namespace Validation

/-- A check against a node with some of the steps down already taken. -/
def checkNodeFrom (registry : Registry) (limit taken : Int) : NodeChecker :=
  checkNode registry limit (limit - taken).toNat

/-- Values are checked as if each stood at the root, and what is found is seen from where it
stands. -/
def onItsOwn (registry : Registry) (limit : Int) : NodeChecker := fun node v path =>
  (validate registry node v limit).map (List.map (Issue.under path))

variable {registry : Registry} {limit taken : Int}

/-- A check takes one step more, unless all are taken: then the depth guard stops it. -/
lemma checkNodeFrom_eq (node : Node) (v : Value) (path : Path) :
    checkNodeFrom registry limit taken node v path =
      if limit ≤ taken then .error (.tooDeep limit path)
      else checkResolved registry (checkNodeFrom registry limit (taken + 1)) node v path := by
  unfold checkNodeFrom
  split
  next hlimit =>
    have hdepth : (limit - taken).toNat = 0 := by omega
    rw [hdepth]
    rfl
  next hlimit =>
    have hdepth : (limit - taken).toNat = (limit - (taken + 1)).toNat + 1 := by omega
    rw [hdepth]
    rfl

/-- **A check somewhere else** ends like that of the value on its own. -/
lemma checkNodeFrom_endAlike (node : Node) (v : Value) (path : Path) :
    EndAlike (checkNodeFrom registry limit taken node v path)
      (onItsOwn registry (limit - taken) node v path) := by
  have hto := checkNode_deeper registry limit (limit - taken) path []
    (Nat.le_refl (limit - taken).toNat) node v path [] ⟨[], by simp, rfl⟩
  have hfrom := checkNode_deeper registry (limit - taken) limit [] path
    (Nat.le_refl (limit - taken).toNat) node v [] path ⟨[], rfl, by simp⟩
  exact Leeway.endAlike_elsewhere hto hfrom
    (fun is js h => (Leeway.map_under_eq (Leeway.sameIssues_symm h)).symm)
    fun is js h => Leeway.map_under_eq h

/-- **Schemas are checked alike** if the nodes below them are. -/
lemma checkSchema_endAlike {child child' : NodeChecker}
    (h : ∀ node v path, EndAlike (child node v path) (child' node v path)) (s : Schema) (v : Value)
    (path : Path) : EndAlike (checkSchema child s v path) (checkSchema child' s v path) := by
  have hfound : ∀ {child child' : NodeChecker},
      (∀ node v path, EndAlike (child node v path) (child' node v path)) →
      (Leeway.deeper [] []).Found (checkSchema child s v path) (checkSchema child' s v path) := by
    intro child child' h
    have hchild : ∀ c ∈ s.children, (Leeway.deeper [] []).FoundAt child child' c := by
      rintro node - w p q ⟨rest, hp, hq⟩
      obtain rfl : p = q := hp.trans hq.symm
      rcases endAlike_iff.1 (h node w p) with heq | ⟨f, g, hf, hg, hdeep, -⟩
      · rw [heq]
        exact .refl (fun is => List.forall₂_same.2 fun i _ => ⟨rfl, rfl, i.path, rfl, rfl⟩) _
      · rw [hf, hg]
        exact .excused hdeep
    exact Leeway.checkSchema hchild ⟨path, rfl, rfl⟩ v
  refine endAlike_of_within (fun hwithin => ?_) fun hwithin => ?_
  · exact (hfound h).eq_of_within hwithin
  · exact (hfound fun node v path => (h node v path).symm).eq_of_within hwithin

/-- What a node stands for is checked alike if the nodes one step down are. -/
lemma checkResolved_endAlike {child child' : NodeChecker}
    (h : ∀ node v path, EndAlike (child node v path) (child' node v path)) (node : Node) (v : Value)
    (path : Path) :
    EndAlike (checkResolved registry child node v path)
      (checkResolved registry child' node v path) := by
  unfold checkResolved
  split
  · exact checkSchema_endAlike h _ v path
  · split
    · exact endAlike_iff.2 (.inl rfl)
    · exact checkSchema_endAlike h _ v path
    · exact h _ v path

end Validation

/-! ## Casts -/

namespace Casting

/-- A cast by a node with some of the steps down already taken. -/
def castNodeFrom (context : CastContext) (taken : Int) : NodeCaster :=
  castNode context (context.limit - taken).toNat

variable {registry : Registry} {types : TypeMap} {limit taken : Int}

/-- **A cast somewhere else**, with any names open, ends like that of the value on its own, if
nothing is selected on the way. -/
lemma castNodeFrom_endAlike {node : Node} (hselects : registry.SelectsNothing node) (v : Value)
    (path : Path) (active : List String) :
    EndAlike (verdict (castNodeFrom ⟨registry, types, limit⟩ taken node v path active))
      ((cast ⟨registry, types, limit - taken⟩ node v).outcome.map (CastResult.under path)) := by
  have hsame : ∀ {base base' : Path} {limit₁ limit₂ : Int} {names₁ names₂ : List String},
      (Leeway.deeper base base').SameCasts Eq
        (castNode ⟨registry, types, limit₁⟩ (limit - taken).toNat node v base names₁)
        (castNode ⟨registry, types, limit₂⟩ (limit - taken).toNat node v base' names₂) := by
    intro base base' limit₁ limit₂ names₁ names₂
    have hcast : (Leeway.deeper base base').CastAt
        (castNode ⟨registry, types, limit₁⟩ (limit - taken).toNat)
        (castNode ⟨registry, types, limit₂⟩ (limit - taken).toNat) names₁ names₂ node := by
      apply castNode_unselecting
      · rfl
      · rfl
      · exact Nat.le_refl _
      · exact .inr hselects
    exact hcast v base base' ⟨[], by simp, by simp⟩
  rw [cast_outcome_eq]
  exact Leeway.endAlike_elsewhere hsame.verdict hsame.verdict
    (fun r r' h => Leeway.result_eq_under h) fun r r' h => Leeway.result_under_eq h

end Casting

/-! ## Whole values -/

/-- **Evaluation does not depend on where a value stands.** A check that starts at some location,
with some of the steps down already taken, ends like the check of the value on its own, within what
is left of the limit: with the same issues, each seen from that location, or it stops for the same
reason, or the depth guard stops both. A cast does so too, with any names open, if the node leads to
no discriminator: the value is the same, or else the issues are, seen from there. Hence a node is
checked as if the values it hands down, properties and items among them, were each checked on their
own, what is found of them seen from where they stand.

**Proof sketch.** Runs at two places with as much depth left are related in either direction, so that
one is within the depth guard if the other is, and then both come to the same. For the parts of a
value this is what the check of a schema asks of the checks below it. -/
theorem evaluated_elsewhere (registry : Registry) (types : TypeMap) (node : Node) (v : Value)
    (path : Path) (limit taken : Int) :
    EndAlike (Validation.checkNodeFrom registry limit taken node v path)
        ((validate registry node v (limit - taken)).map (List.map (Issue.under path))) ∧
      (registry.SelectsNothing node → ∀ active,
        EndAlike
          (Casting.verdict
            (Casting.castNodeFrom ⟨registry, types, limit⟩ taken node v path active))
          ((cast ⟨registry, types, limit - taken⟩ node v).outcome.map (CastResult.under path))) ∧
      (taken < limit →
        EndAlike (Validation.checkNodeFrom registry limit taken node v path)
          (Validation.checkResolved registry
            (Validation.onItsOwn registry (limit - (taken + 1))) node v path)) := by
  refine ⟨Validation.checkNodeFrom_endAlike node v path, fun hselects active => ?_, ?_⟩
  · exact Casting.castNodeFrom_endAlike hselects v path active
  · intro hlimit
    rw [Validation.checkNodeFrom_eq, if_neg (by omega)]
    exact Validation.checkResolved_endAlike Validation.checkNodeFrom_endAlike node v path

/-- A person with an age. -/
def person : Schema where
  properties := some [("age", .schema { type := some .integer })]

/-- A person with an age that is no number. -/
def ageless : Value := .mapping [(.str "age", .str "old")]

/-- A person is checked and cast within a list of people as on its own: the age is found to be
wrong. -/
theorem person_elsewhere :
    SameVerdict
      (Validation.checkNodeFrom ⟨[]⟩ 64 3 (.schema person) ageless [.str "people", .int 0])
      ((validate ⟨[]⟩ (.schema person) ageless (64 - 3)).map
        (List.map (Issue.under [.str "people", .int 0]))) ∧
    SameVerdict
      (Casting.verdict (Casting.castNodeFrom ⟨⟨[]⟩, .generic, 64⟩ 3 (.schema person) ageless
        [.str "people", .int 0] ["People"]))
      ((cast ⟨⟨[]⟩, .generic, 64 - 3⟩ (.schema person) ageless).outcome.map
        (CastResult.under [.str "people", .int 0])) ∧
    SameVerdict
      (Validation.checkNodeFrom ⟨[]⟩ 64 3 (.schema person) ageless [.str "people", .int 0])
      (Validation.checkSchema (Validation.onItsOwn ⟨[]⟩ (64 - (3 + 1))) person ageless
        [.str "people", .int 0]) ∧
    ∃ is, validate ⟨[]⟩ (.schema person) ageless (64 - 3) = .ok is ∧
      is.map Issue.kind = [.wrongType] := by
  have hselects : (⟨[]⟩ : Registry).SelectsNothing (.schema person) := by
    intro s h
    cases h with
    | here => rfl
    | child hc h =>
      obtain rfl := List.mem_singleton.1 hc
      cases h with
      | here => rfl
      | child hc => cases hc
  obtain ⟨hcheck, hcast, hparts⟩ := evaluated_elsewhere ⟨[]⟩ .generic (.schema person) ageless
    [.str "people", .int 0] 64 3
  refine ⟨hcheck.sameVerdict_iff.2 (by decide +kernel), ?_, ?_, ?_⟩
  · exact (hcast hselects ["People"]).sameVerdict_iff.2 (by decide +kernel)
  · exact (hparts (by decide)).sameVerdict_iff.2 (by decide +kernel)
  · exact exists_ok_of_kinds (by decide +kernel)

end DataSchema
