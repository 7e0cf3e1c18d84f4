import Mathlib
import DataSchema.Proofs.Acceptance
import DataSchema.Proofs.Agreement
import DataSchema.Proofs.CastRelations
import DataSchema.Proofs.Settled

set_option autoImplicit false

/-!
# Verdicts on settled values

For a value in which there is nothing to convert, casting and validation ask the same of it, but for
alternatives that exclude each other: a cast takes the first that fits and does not look for a
second. So a cast succeeds exactly when validation finds nothing, or nothing but that more than one
of the alternatives of the schema conform. The pivot is what a schema asks of a settled value apart
from that: it follows from what validation finds and from a cast that succeeds, and it lets a cast
succeed.

## Main definitions

* `DataSchema.Validation.Suits` — what a schema asks of a settled value for a cast.
* `DataSchema.Registry.OnlyAmbiguous` — issues that only say that several alternatives conform.

## Main results

* `DataSchema.Validation.suits_of_checkKeywords`, `DataSchema.Validation.issues_of_suits` — what
  validation finds, and what a schema asks.
* `DataSchema.Casting.castComposed_accepts_settled`, `DataSchema.Casting.suits_of_castComposed` —
  casts, and what a schema asks.
* `DataSchema.settled_alike` — validation and casting of settled values.
-/

namespace DataSchema

namespace Validation

open Casting (isObject_of_isSettled objectView?_of_isSettled items?_of_isSettled)

variable {child : NodeChecker} {s : Schema} {v : Value} {path : Path} {is one any : List Issue}

/-! ## Alternatives -/

/-- The only issue is that more than one alternative conforms. -/
def IsAmbiguity (is : List Issue) : Prop := is.map Issue.kind = [.ambiguousMatch]

/-- A value conforms to a node if no issue is found. -/
lemma conforms_eq_true {c : Node} :
    conforms child c v path = .ok true ↔ child c v path = .ok [] := by
  rw [conforms, map_eq_ok]
  simp only [List.isEmpty_iff, exists_eq_right]

/-- Where alternatives exclude each other, and there is no issue but that several conform, one
conforms. -/
lemma exists_of_checkOneOf (h : checkOneOf child s v path = .ok one)
    (hone : one = [] ∨ IsAmbiguity one) (hsome : s.oneOfList ≠ []) :
    ∃ c ∈ s.oneOfList, child c v path = .ok [] := by
  unfold checkOneOf at h
  rw [if_neg (by simpa using hsome)] at h
  obtain ⟨count, hcount, h⟩ := bind_eq_ok.1 h
  split at h
  next hzero =>
    obtain rfl := Except.ok.inj h
    rcases hone with hone | hone <;> cases hone
  next hpos =>
    obtain ⟨c, hc, hconforms⟩ := exists_of_conformingCount hcount (by omega)
    exact ⟨c, hc, conforms_eq_true.1 hconforms⟩

/-- Where one of the alternatives that exclude each other conforms, there is no issue but that
several may. -/
lemma checkOneOf_of_exists (h : checkOneOf child s v path = .ok one)
    (hexists : s.oneOfList ≠ [] → ∃ c ∈ s.oneOfList, child c v path = .ok []) :
    one = [] ∨ IsAmbiguity one := by
  unfold checkOneOf at h
  split at h
  next => exact .inl (Except.ok.inj h).symm
  next hsome =>
    obtain ⟨count, hcount, h⟩ := bind_eq_ok.1 h
    obtain ⟨c, hc, hconforms⟩ := hexists (by simpa using hsome)
    have hpos := conformingCount_pos hcount hc (conforms_eq_true.2 hconforms)
    rw [if_neg (by omega)] at h
    obtain rfl := Except.ok.inj h
    unfold issueIf
    split
    · exact .inr rfl
    · exact .inl rfl

/-- Where there is no issue with alternatives, one conforms. -/
lemma exists_of_checkAnyOf (h : checkAnyOf child s v path = .ok []) (hsome : s.anyOfList ≠ []) :
    ∃ c ∈ s.anyOfList, child c v path = .ok [] := by
  unfold checkAnyOf at h
  rw [if_neg (by simpa using hsome)] at h
  obtain ⟨found, hfound, h⟩ := bind_eq_ok.1 h
  have htrue : found = true := by simpa using issueIf_eq_nil.1 (Except.ok.inj h)
  obtain ⟨c, hc, hconforms⟩ := exists_of_conformsToAny (htrue ▸ hfound)
  exact ⟨c, hc, conforms_eq_true.1 hconforms⟩

/-- Where one of the alternatives conforms, there is no issue with them. -/
lemma checkAnyOf_of_exists (h : checkAnyOf child s v path = .ok any)
    (hexists : s.anyOfList ≠ [] → ∃ c ∈ s.anyOfList, child c v path = .ok []) : any = [] := by
  unfold checkAnyOf at h
  split at h
  next => exact (Except.ok.inj h).symm
  next hsome =>
    obtain ⟨found, hfound, h⟩ := bind_eq_ok.1 h
    obtain ⟨c, hc, hconforms⟩ := hexists (by simpa using hsome)
    cases found with
    | true => exact (Except.ok.inj h).symm
    | false =>
      have hno := forall_of_conformsToAny hfound c hc
      rw [conforms_eq_true.2 hconforms] at hno
      cases hno

/-! ## What a schema asks of a settled value -/

/-- What a schema asks of a settled value for a cast to succeed: its own keywords and its members
find nothing, one of the alternatives that are tried conforms, and the schema that must not match
does not. -/
structure Suits (child : NodeChecker) (s : Schema) (v : Value) (path : Path) : Prop where
  /-- The type is right. -/
  type : checkType s v path = []
  /-- The value is one of those that are allowed. -/
  enum : checkEnum s v path = []
  /-- The keywords for scalars find nothing. -/
  scalar : checkScalar s v path = .ok []
  /-- All members conform. -/
  members : ∀ c ∈ s.allOfList, child c v path = .ok []
  /-- An alternative conforms. -/
  alternative : s.hasAlternatives = true → ∃ c ∈ Casting.alternatives s, child c v path = .ok []
  /-- What must not match does not. -/
  unmatched : checkNot child s v path = .ok []

/-- Of a settled value the keywords for objects and arrays find nothing. -/
lemma checkKeywords_settled (hv : v.isSettled = true) :
    checkKeywords child s v path = (do
      let scalar ← checkScalar s v path
      let composition ← checkComposition child s v path
      return checkType s v path ++ checkEnum s v path ++ scalar ++ composition) := by
  have hobject : checkObject child s v path = .ok [] := by
    rw [checkObject, objectView?_of_isSettled hv]
  have harray : checkArray child s v path = .ok [] := by
    rw [checkArray, items?_of_isSettled hv]
  unfold checkKeywords
  rw [hobject, harray]
  simp only [bind, Except.bind, List.append_nil]

/-- Where null is neither allowed nor of the wrong type, a schema checks a value by its keywords. -/
lemma checkSchema_eq_checkKeywords (hnull : ¬(v.isNull && s.nullable.isTruthy) = true)
    (htyped : ¬(v.isNull && s.type.isSome) = true) :
    checkSchema child s v path = checkKeywords child s v path := by
  rw [checkSchema, if_neg hnull, if_neg htyped]

/-- A schema that has nothing but alternatives that exclude each other finds in a settled value what
these find. -/
lemma checkNode_oneOf {registry : Registry} {limit : Int} {depth : Nat}
    (hv : v.isSettled = true) (s : Schema) :
    checkNode registry limit (depth + 1) (.schema { oneOf := s.oneOf }) v path =
      checkOneOf (checkNode registry limit depth) s v path := by
  have hscalar : checkScalar { oneOf := s.oneOf } v path = .ok [] := by
    cases v <;> rfl
  have hone : checkOneOf (checkNode registry limit depth) { oneOf := s.oneOf } v path =
    checkOneOf (checkNode registry limit depth) s v path := rfl
  show checkSchema (checkNode registry limit depth) { oneOf := s.oneOf } v path = _
  rw [checkSchema_eq_checkKeywords (by simp [Value.isTruthy]) (by simp), checkKeywords_settled hv,
    hscalar, checkComposition, hone]
  cases checkOneOf (checkNode registry limit depth) s v path with
  | error f => rfl
  | ok is =>
    show Except.ok ([] ++ is ++ []) = Except.ok is
    rw [List.nil_append, List.append_nil]

/-- Where all that a schema finds in a settled value is that several alternatives conform, the check
of the alternatives does not stop. -/
lemma exists_checkOneOf (hv : v.isSettled = true) (h : checkSchema child s v path = .ok is)
    (hambiguity : IsAmbiguity is) : ∃ one, checkOneOf child s v path = .ok one := by
  unfold checkSchema at h
  split at h
  · obtain rfl := Except.ok.inj h
    cases hambiguity
  split at h
  · obtain rfl := Except.ok.inj h
    cases hambiguity
  rw [checkKeywords_settled hv] at h
  simp only [checkComposition, bind_eq_ok] at h
  obtain ⟨-, -, -, ⟨-, -, -, -, one, hone, -⟩, -⟩ := h
  exact ⟨one, hone⟩

/-- **Where validation finds nothing**, or nothing but that several alternatives conform, there is
all that the schema asks. -/
lemma suits_of_checkKeywords (hv : v.isSettled = true) (h : checkKeywords child s v path = .ok is)
    (his : is = [] ∨ checkOneOf child s v path = .ok is ∧ IsAmbiguity is) :
    Suits child s v path := by
  rw [checkKeywords_settled hv] at h
  simp only [checkComposition, bind_eq_ok, pure_eq_ok, Except.ok.injEq] at h
  obtain ⟨scalar, hscalar, _, ⟨all, hall, any, hany, one, hone, not, hnot, rfl⟩, hissues⟩ := h
  have hrest : checkType s v path = [] ∧ checkEnum s v path = [] ∧ scalar = [] ∧ all = [] ∧
      any = [] ∧ not = [] ∧ (one = [] ∨ IsAmbiguity one) := by
    rcases his with rfl | ⟨hsame, hambiguity⟩
    · simp only [List.append_eq_nil_iff] at hissues
      obtain ⟨⟨⟨htype, henum⟩, hscalar⟩, ⟨⟨hall, hany⟩, hone⟩, hnot⟩ := hissues
      exact ⟨htype, henum, hscalar, hall, hany, hnot, .inl hone⟩
    · -- all issues are those of the alternatives, so that there are no others beside them
      obtain rfl : one = is := Except.ok.inj (hone.symm.trans hsame)
      have hlength := congrArg List.length hissues
      simp only [List.length_append] at hlength
      refine ⟨?_, ?_, ?_, ?_, ?_, ?_, .inr hambiguity⟩ <;>
        exact List.eq_nil_of_length_eq_zero (by omega)
  obtain ⟨htype, henum, rfl, rfl, rfl, rfl, hambiguity⟩ := hrest
  refine ⟨htype, henum, hscalar, gather_eq_nil.1 hall, fun hsome => ?_, hnot⟩
  unfold Casting.alternatives
  cases hempty : s.oneOfList.isEmpty with
  | true =>
    rw [Keywords.hasAlternatives, hempty] at hsome
    exact exists_of_checkAnyOf hany (by simpa using hsome)
  | false => exact exists_of_checkOneOf hone hambiguity (by simpa using hempty)

/-- Where there is all that a schema asks, its keywords without the alternatives find nothing. -/
lemma checkKeywords_withoutAlternatives (hv : v.isSettled = true) (hsuits : Suits child s v path) :
    checkKeywords child s.withoutAlternatives v path = .ok [] := by
  have hscalar : checkScalar s.withoutAlternatives v path = .ok [] := hsuits.scalar
  have hall : gather s.withoutAlternatives.allOfList (fun c => child c v path) = .ok [] :=
    gather_eq_nil.2 hsuits.members
  have hany : checkAnyOf child s.withoutAlternatives v path = .ok [] := rfl
  have hone : checkOneOf child s.withoutAlternatives v path = .ok [] := rfl
  have hnot : checkNot child s.withoutAlternatives v path = .ok [] := hsuits.unmatched
  have htype : checkType s.withoutAlternatives v path = [] := hsuits.type
  have henum : checkEnum s.withoutAlternatives v path = [] := hsuits.enum
  rw [checkKeywords_settled hv, checkComposition, hscalar, hall, hany, hone, hnot, htype, henum]
  rfl

/-- **Where there is all that a schema asks**, validation finds nothing but that several
alternatives conform, unless it has alternatives of both kinds. -/
lemma issues_of_suits (hv : v.isSettled = true) (hsuits : Suits child s v path)
    (hkind : s.oneOfList = [] ∨ s.anyOfList = []) (h : checkKeywords child s v path = .ok is) :
    is = [] ∨ checkOneOf child s v path = .ok is ∧ IsAmbiguity is := by
  rw [checkKeywords_settled hv] at h
  simp only [checkComposition, bind_eq_ok, pure_eq_ok, Except.ok.injEq] at h
  obtain ⟨scalar, hscalar, _, ⟨all, hall, any, hany, one, hone, not, hnot, rfl⟩, rfl⟩ := h
  obtain rfl : scalar = [] := Except.ok.inj (hscalar.symm.trans hsuits.scalar)
  obtain rfl : not = [] := Except.ok.inj (hnot.symm.trans hsuits.unmatched)
  obtain rfl : all = [] := Except.ok.inj (hall.symm.trans (gather_eq_nil.2 hsuits.members))
  have halternative := hsuits.alternative
  unfold Casting.alternatives Keywords.hasAlternatives at halternative
  obtain rfl : any = [] := by
    refine checkAnyOf_of_exists hany fun hsome => ?_
    rw [hkind.resolve_right hsome] at halternative
    simpa [hsome] using halternative
  have hcases : one = [] ∨ IsAmbiguity one := by
    refine checkOneOf_of_exists hone fun hsome => ?_
    simpa [hsome] using halternative
  rw [hsuits.type, hsuits.enum]
  simp only [List.nil_append, List.append_nil]
  exact hcases.imp_right fun hambiguity => ⟨hone, hambiguity⟩

end Validation

namespace Casting

open Validation

variable {context : CastContext} {child : NodeCaster} {check : NodeChecker} {s : Schema}
  {v r : Value} {path : Path} {active : List String}

/-! ## Conversions of settled values -/

/-- A settled value of the right type stays as it is. -/
lemma castScalar_of_hasType (hv : v.isSettled = true) (htype : hasType s v = true) :
    castScalar s v path = pure v := by
  have htext : ∀ text, v ≠ .str text := by
    rintro text rfl
    cases hv
  refine Converts.castScalar_eq ?_ path
  cases htemporal : isTemporal s.format v with
  | true => exact .of_isTemporal htype htemporal
  | false =>
    rcases ConvertsByType.of_hasType htype htemporal with hkept | ⟨x, n, rfl, -, -⟩
    · exact .typed (.inr ⟨htemporal, htext⟩) hkept
    · cases hv

/-- By the shape of a schema, a settled value is accepted if its keywords for scalars find
nothing. -/
lemma castOwn_accepts_settled (hv : v.isSettled = true) (hsuits : Suits check s v path) :
    Accepts (castOwn child s v path active) := by
  have htype := Conformance.checkType_eq_nil.1 hsuits.type
  have hobject : castsObject s v = false := eq_false_of_ne_true fun hcasts => by
    have his := isObject_of_castsObject hcasts htype
    rw [isObject_of_isSettled hv] at his
    cases his
  have harray : castsArray s v = false := eq_false_of_ne_true fun hcasts => by
    have his := isArray_of_castsArray hcasts htype
    rw [Value.isArray, items?_of_isSettled hv] at his
    cases his
  unfold castOwn
  rw [hobject, harray, if_neg Bool.false_ne_true, if_neg Bool.false_ne_true,
    castScalar_of_hasType hv (by rwa [Conformance.hasType_eq_meetsType]), pure_bind]
  refine .bind (.require fun is his => ?_) fun _ _ => .pure v
  rw [hsuits.scalar, hsuits.enum] at his
  exact (Except.ok.inj his).symm

/-- A schema that casts no object and no array, and asks for no scalar, asks for no type. -/
lemma hasType_of_not_asked (hscalar : s.asksForScalar = false) (hobject : castsObject s v = false)
    (harray : castsArray s v = false) : hasType s v = true := by
  unfold hasType
  rcases type_of_castsNeither hscalar hobject harray with htype | ⟨name, htype⟩ <;> rw [htype]

/-- By the shape of a schema, a settled value that is cast is one in which the keywords for scalars
find nothing. -/
lemma castOwn_settled_passes (hv : v.isSettled = true)
    (h : (castOwn child s v path active).outcome = .ok r) :
    checkType s v path = [] ∧ checkEnum s v path = [] ∧ checkScalar s v path = .ok [] := by
  rcases castOwn_outcome_ok.1 h with ⟨-, h⟩ | ⟨-, -, h⟩ | ⟨hobject, harray, h, henum, hscalar⟩
  · obtain ⟨data, -, -, hview, -⟩ := castObject_outcome_ok.1 h
    rw [objectView?_of_isSettled hv] at hview
    cases hview
  · obtain ⟨items, -, hitems, -⟩ := castArray_outcome_ok.1 h
    rw [items?_of_isSettled hv] at hitems
    cases hitems
  obtain rfl := castScalar_settled hv h
  refine ⟨?_, henum, hscalar⟩
  have htype : hasType s r = true := by
    cases castScalar_conversion s r with
    | issue kind message heq => rw [heq] at h; cases h
    | offCalendar text htext => rw [htext] at hv; cases hv
    | result r hfrom heq =>
      rw [heq] at h
      obtain rfl := Except.ok.inj h
      rcases hfrom with ⟨hasks, -⟩ | ⟨-, -, htype⟩
      · exact hasType_of_not_asked hasks hobject harray
      · exact htype
  simpa [checkType] using htype

/-! ## Casts by schemas -/

/-- **A schema casts a settled value** for which there is all that it asks, if the nodes below keep
the value and accept it where they find nothing. -/
lemma castComposed_accepts_settled (hv : v.isSettled = true) (htarget : s.targetType = .absent)
    (hsuits : Suits check s v path)
    (haccepts : ∀ c ∈ s.sameNodes, check c v path = .ok [] → Accepts (child c v path active))
    (hkeeps : ∀ c ∈ s.sameNodes, ∀ r, (child c v path active).outcome = .ok r → r = v)
    (hwhole : ∀ is, check (.schema s.withoutAlternatives) v path = .ok is → is = []) :
    Accepts (castComposed context child check s v path active) := by
  have hobject := isObject_of_isSettled hv
  unfold castComposed
  refine .bind (castOwn_accepts_settled hv hsuits) fun own hown => ?_
  rw [castOwn_settled hv hown]
  refine .bind ?_ fun all hall => ?_
  · unfold castAllOf
    rw [hobject, if_neg Bool.false_ne_true]
    split
    · exact .pure v
    · refine castInTurn_accepts (P := fun w => w = v) rfl fun c hc w hw => ?_
      rw [hw]
      have hmem := Keywords.mem_sameNodes_allOf hc
      exact ⟨haccepts c hmem (hsuits.members c hc), hkeeps c hmem⟩
  rw [castAllOf_keeps hobject (fun c hc => hkeeps c (Keywords.mem_sameNodes_allOf hc)) hall]
  refine .bind (castAlternative_accepts fun hsome => ?_) fun result hresult => ?_
  · rw [hobject, if_neg Bool.false_ne_true]
    obtain ⟨c, hc, hfits⟩ := hsuits.alternative hsome
    have hmem := mem_sameNodes_of_alternatives hc
    refine ⟨c, hc, haccepts c hmem hfits, fun r hr is his => ?_⟩
    rw [hkeeps c hmem r hr, hfits] at his
    exact (Except.ok.inj his).symm
  rw [castAlternative_keeps hobject hobject
    (fun c hc => hkeeps c (mem_sameNodes_of_alternatives hc)) hresult, requireWhole_eq]
  refine .bind (.bind ?_ fun _ _ => ?_) fun _ _ => ?_
  · split
    · exact .require hwhole
    · exact .pure ()
  · exact .of_outcome_ok (refuseMatch_outcome_ok.2 hsuits.unmatched)
  · rw [materialize_eq_pure htarget]
    exact .pure v

/-- **Where a schema casts a settled value**, there is all that it asks, if the nodes below keep the
value, and members find nothing where the schema without its alternatives does. -/
lemma suits_of_castComposed (hv : v.isSettled = true)
    (hkeeps : ∀ c ∈ s.sameNodes, ∀ r, (child c v path active).outcome = .ok r → r = v)
    (hwhole : check (.schema s.withoutAlternatives) v path = .ok [] →
      ∀ c ∈ s.allOfList, check c v path = .ok [])
    (h : (castComposed context child check s v path active).outcome = .ok r) :
    Suits check s v path := by
  have hobject := isObject_of_isSettled hv
  obtain ⟨own, all, result, hown, hall, hresult, hrequire, -⟩ := castComposed_outcome_ok.1 h
  obtain ⟨htype, henum, hscalar⟩ := castOwn_settled_passes hv hown
  rw [castOwn_settled hv hown] at hall
  have hmembers : all = v :=
    castAllOf_keeps hobject (fun c hc => hkeeps c (Keywords.mem_sameNodes_allOf hc)) hall
  rw [hmembers] at hresult
  have hchosen : result = v := castAlternative_keeps hobject hobject
    (fun c hc => hkeeps c (mem_sameNodes_of_alternatives hc)) hresult
  rw [hchosen, requireWhole_eq] at hrequire
  obtain ⟨_, hrest, hrefuse⟩ := bind_outcome_ok.1 hrequire
  refine ⟨htype, henum, hscalar, fun c hc => ?_, fun hsome => ?_, refuseMatch_outcome_ok.1 hrefuse⟩
  · have hcomposed : s.isComposed = true := by
      by_contra hplain
      rw [(Keywords.isComposed_eq_false.1 (eq_false_of_ne_true hplain)).1] at hc
      cases hc
    rw [if_pos hcomposed] at hrest
    exact hwhole (require_outcome_ok.1 hrest) c hc
  · obtain ⟨c, hc, chosen, hcast, hfits, -⟩ := castAlternative_outcome_ok hsome hresult
    rw [hobject, if_neg Bool.false_ne_true] at hcast
    rw [hkeeps c (mem_sameNodes_of_alternatives hc) chosen hcast] at hfits
    exact ⟨c, hc, hfits⟩

/-! ## Nodes -/

section

variable {depth : Nat} {node : Node} {is : List Issue}

/-- What a schema finds without its alternatives, it finds by its keywords without them, with more
depth left. -/
lemma checkKeywords_of_withoutAlternatives (hnull : ¬(v.isNull && s.nullable.isTruthy) = true)
    (htyped : ¬(v.isNull && s.type.isSome) = true)
    (h : checkNode context.registry context.limit depth (.schema s.withoutAlternatives) v path =
      .ok is) :
    checkKeywords (checkNode context.registry context.limit depth) s.withoutAlternatives v path =
      .ok is := by
  rw [← checkSchema_eq_checkKeywords (s := s.withoutAlternatives) hnull htyped]
  exact checkNode_mono depth.le_succ h

/-- A schema accepts a settled value in which it finds nothing, or nothing but that several
alternatives conform, if the nodes below accept it where they find nothing. -/
lemma castSchema_accepts_settled (hv : v.isSettled = true) (htarget : s.targetType = .absent)
    (hbelow : ∀ c ∈ s.sameNodes, checkNode context.registry context.limit depth c v path = .ok [] →
      Accepts (castNode context depth c v path active))
    (h : checkSchema (checkNode context.registry context.limit depth) s v path = .ok is)
    (his : is = [] ∨ checkOneOf (checkNode context.registry context.limit depth) s v path = .ok is ∧
      IsAmbiguity is) :
    Accepts (castSchema context (castNode context depth)
      (checkNode context.registry context.limit depth) s v path active) := by
  rw [castSchema_settled hv]
  by_cases hnull : (v.isNull && s.nullable.isTruthy) = true
  · rw [if_pos hnull]
    exact .pure Value.null
  rw [if_neg hnull]
  by_cases htyped : (v.isNull && s.type.isSome) = true
  · rw [checkSchema, if_neg hnull, if_pos htyped] at h
    obtain rfl := Except.ok.inj h
    rcases his with his | ⟨-, his⟩ <;> cases his
  rw [if_neg htyped]
  rw [checkSchema_eq_checkKeywords hnull htyped] at h
  have hsuits := suits_of_checkKeywords hv h his
  refine castComposed_accepts_settled hv htarget hsuits hbelow
    (fun c _ r hr => castNode_settled hv hr) fun js hjs => ?_
  exact Except.ok.inj ((checkKeywords_of_withoutAlternatives hnull htyped hjs).symm.trans
    (checkKeywords_withoutAlternatives hv hsuits))

/-- Where a schema casts a settled value, it finds nothing, or nothing but that several alternatives
conform, unless it has alternatives of both kinds. -/
lemma issues_of_castSchema (hv : v.isSettled = true) (hkind : s.oneOfList = [] ∨ s.anyOfList = [])
    (h : checkSchema (checkNode context.registry context.limit depth) s v path = .ok is)
    (hcast : (castSchema context (castNode context depth)
      (checkNode context.registry context.limit depth) s v path active).outcome = .ok r) :
    is = [] ∨ checkOneOf (checkNode context.registry context.limit depth) s v path = .ok is ∧
      IsAmbiguity is := by
  rw [castSchema_settled hv] at hcast
  by_cases hnull : (v.isNull && s.nullable.isTruthy) = true
  · rw [checkSchema, if_pos hnull] at h
    exact .inl (Except.ok.inj h).symm
  rw [if_neg hnull] at hcast
  by_cases htyped : (v.isNull && s.type.isSome) = true
  · rw [if_pos htyped] at hcast
    cases hcast
  rw [if_neg htyped] at hcast
  rw [checkSchema_eq_checkKeywords hnull htyped] at h
  refine issues_of_suits hv (suits_of_castComposed hv (fun c _ r hr => castNode_settled hv hr)
    (fun hwhole => ?_) hcast) hkind h
  exact (suits_of_checkKeywords hv (checkKeywords_of_withoutAlternatives hnull htyped hwhole)
    (.inl rfl)).members

/-- **A settled value in which a node finds nothing is accepted by it**, if no records are built.

**Proof sketch.** Induction on the depth. The node stands for a schema, with less depth left, and
what the nodes below find nothing in, they accept. -/
theorem castNode_accepts_settled (hv : v.isSettled = true)
    (hrecords : context.registry.BuildsNoRecords node)
    (h : checkNode context.registry context.limit depth node v path = .ok []) :
    Accepts (castNode context depth node v path active) := by
  induction depth using Nat.strongRecOn generalizing node active with
  | ind depth ih =>
    obtain ⟨hkinds, -⟩ | ⟨s, left, hs, hleft, hcheck, opened, heq⟩ := resolved_of_checkNode active h
    · cases hkinds
    have hbelow : context.registry.BuildsNoRecords (.schema s) :=
      fun t ht => hrecords t (hs.reaches ht)
    rw [heq]
    refine castSchema_accepts_settled hv (hbelow s (.here s)) (fun c hc hfits => ?_) hcheck
      (.inl rfl)
    exact ih left hleft (hbelow.below (Keywords.mem_children_of_same hc)) hfits

end

end Casting

/-! ## Whole values -/

/-- All that is found is that the value conforms to several of the alternatives that exclude each
other of the schema that a node stands for: that is what these find on their own. -/
def Registry.OnlyAmbiguous (registry : Registry) (limit : Int) (node : Node) (v : Value)
    (is : List Issue) : Prop :=
  ∃ s, registry.Resolves node s ∧
    validate registry (.schema { oneOf := s.oneOf }) v limit = .ok is ∧ Validation.IsAmbiguity is

/-- What is accepted by its node is cast, if the cast does not stop. -/
lemma exists_ok_of_accepts {context : CastContext} {node : Node} {v : Value} {res : CastResult}
    (h : Casting.Accepts (Casting.castNode context context.limit.toNat node v [] []))
    (hcast : (cast context node v).outcome = .ok res) : ∃ r, res = .ok r := by
  cases res with
  | ok r => exact ⟨r, rfl⟩
  | failed is => exact absurd (cast_outcome_failed.1 hcast) (h is)

/-- **Casting and validation agree on settled values**, if no records are built and neither stops. A
cast has the value itself as its result or fails, and it does not fail if validation finds nothing.
Unless the schema that the node stands for has alternatives of both kinds, a cast succeeds exactly
when validation finds nothing, or nothing but that several of the alternatives of that schema
conform. -/
theorem settled_alike {context : CastContext} {node : Node} {v : Value} {is : List Issue}
    {res : CastResult} (hv : v.isSettled = true) (hrecords : context.registry.BuildsNoRecords node)
    (hcheck : validate context.registry node v context.limit = .ok is)
    (hcast : (cast context node v).outcome = .ok res) :
    (∀ r, res = .ok r → r = v) ∧ (is = [] → res = .ok v) ∧
      ((∀ s, context.registry.Resolves node s → s.oneOfList = [] ∨ s.anyOfList = []) →
        ((∃ r, res = .ok r) ↔
          is = [] ∨ context.registry.OnlyAmbiguous context.limit node v is)) := by
  have hkept : ∀ r, res = .ok r → r = v := by
    rintro r rfl
    exact Casting.castNode_settled hv (cast_outcome_ok.1 hcast)
  refine ⟨hkept, ?_, fun hkind => ⟨?_, fun his => ?_⟩⟩
  · rintro rfl
    obtain ⟨r, hr⟩ := exists_ok_of_accepts
      (Casting.castNode_accepts_settled hv hrecords hcheck) hcast
    rw [hr, hkept r hr]
  · rintro ⟨r, rfl⟩
    have hnode := cast_outcome_ok.1 hcast
    obtain ⟨-, hfails⟩ | ⟨s, left, hs, hleft, hissues, opened, heq⟩ :=
      Casting.resolved_of_checkNode [] hcheck
    · exact absurd hnode (hfails r)
    · rw [heq] at hnode
      refine (Casting.issues_of_castSchema hv (hkind s hs) hissues hnode).imp_right ?_
      rintro ⟨hone, hambiguity⟩
      rw [← Validation.checkNode_oneOf hv] at hone
      exact ⟨s, hs, Validation.checkNode_mono hleft hone, hambiguity⟩
  · refine exists_ok_of_accepts ?_ hcast
    obtain ⟨hkinds, -⟩ | ⟨s, left, hs, hleft, hissues, opened, heq⟩ :=
      Casting.resolved_of_checkNode [] hcheck
    · rcases his with rfl | ⟨_, -, -, hambiguity⟩
      · cases hkinds
      · cases hkinds.symm.trans hambiguity
    · rw [heq]
      have hbelow : context.registry.BuildsNoRecords (.schema s) :=
        fun t ht => hrecords t (hs.reaches ht)
      refine Casting.castSchema_accepts_settled hv (hbelow s (.here s)) (fun c hc hfits => ?_)
        hissues (his.imp_right ?_)
      · exact Casting.castNode_accepts_settled hv
          (hbelow.below (Keywords.mem_children_of_same hc)) hfits
      · -- with all the depth there is, the alternatives find what they find below the schema
        rintro ⟨t, ht, halone, hambiguity⟩
        obtain rfl := hs.unique ht
        obtain ⟨one, hone⟩ := Validation.exists_checkOneOf hv hissues hambiguity
        rw [← Validation.checkNode_oneOf hv] at hone
        obtain rfl := Except.ok.inj ((Validation.checkNode_mono hleft hone).symm.trans halone)
        rw [Validation.checkNode_oneOf hv] at hone
        exact ⟨hone, hambiguity⟩

/-- A score is a whole number or any number, and no truth value; it may be missing. -/
def score : Schema where
  nullable := .bool true
  oneOf := some [.schema { type := some .integer }, .schema { type := some .number }]
  notSchema := some (.schema { type := some .boolean })

/-- Scores, and ranks that are scores. -/
def scores : Registry := ⟨[("Rank", .ref "Score"), ("Score", .schema score)]⟩

/-- Ranks are no records. -/
lemma rank_buildsNoRecords : scores.BuildsNoRecords (.ref "Rank") := by
  refine .of_list [.ref "Rank", .ref "Score", .schema score, .schema { type := some .integer },
    .schema { type := some .number }, .schema { type := some .boolean }] ?_ ?_ List.mem_cons_self
  · simp only [List.mem_cons, List.not_mem_nil, reduceCtorEq, Node.ref.injEq, or_false]
    rintro name (rfl | rfl) target htarget
    · obtain rfl := Option.some.inj htarget
      exact .inr (.inl rfl)
    · obtain rfl := Option.some.inj htarget
      exact .inr (.inr (.inl rfl))
  · simp only [List.mem_cons, List.not_mem_nil, reduceCtorEq, Node.schema.injEq, or_false, false_or]
    rintro t (rfl | rfl | rfl | rfl)
    · exact ⟨fun c hc => List.mem_of_mem_drop (i := 3) hc, rfl⟩
    all_goals exact ⟨fun c hc => absurd hc List.not_mem_nil, rfl⟩

/-- A whole number is a rank, although validation finds it to be a score in two ways. -/
theorem ranks_alike :
    Value.isSettled (.int 3) = true ∧ scores.BuildsNoRecords (.ref "Rank") ∧
    (cast ⟨scores, .generic, 8⟩ (.ref "Rank") (.int 3)).outcome = .ok (.ok (.int 3)) ∧
    ∃ is, validate scores (.ref "Rank") (.int 3) 8 = .ok is ∧
      scores.OnlyAmbiguous 8 (.ref "Rank") (.int 3) is := by
  obtain ⟨is, hcheck, hkinds⟩ : ∃ is, validate scores (.ref "Rank") (.int 3) 8 = .ok is ∧
      is.map Issue.kind = [.ambiguousMatch] := exists_ok_of_kinds (by decide +kernel)
  have hcast : (cast ⟨scores, .generic, 8⟩ (.ref "Rank") (.int 3)).outcome =
      .ok (.ok (.int 3)) := by cbv
  have hkind : ∀ s, scores.Resolves (.ref "Rank") s → s.oneOfList = [] ∨ s.anyOfList = [] := by
    intro s hs
    obtain rfl := hs.unique (.ref rfl (.ref rfl (.schema score)))
    exact .inr rfl
  obtain ⟨-, -, hverdict⟩ := settled_alike rfl rank_buildsNoRecords hcheck hcast
  refine ⟨rfl, rank_buildsNoRecords, hcast, is, hcheck, ?_⟩
  rcases (hverdict hkind).1 ⟨_, rfl⟩ with rfl | honly
  · cases hkinds
  · exact honly

end DataSchema
