import DataSchema.Proofs.CastSteps
import DataSchema.Proofs.NodeSteps

set_option autoImplicit false

/-!
# Settled values

Null, truth values, whole numbers and dates are settled: there is nothing in them that a cast could
convert, whatever the schema, so that a cast has them as its result or fails.

## Main definitions

* `DataSchema.Value.isSettled` — null, truth values, whole numbers, dates and dates with a time.

## Main results

* `DataSchema.Casting.castComposed_keeps` — composition keeps what is no object.
* `DataSchema.Casting.castNode_settled` — casts by nodes keep what is settled, at every depth.
-/

namespace DataSchema

/-- Whether there is nothing to convert in a value: null, a truth value, a whole number, or a date.
-/
def Value.isSettled : Value → Bool
  | null | bool _ | int _ | date _ | dateTime _ => true
  | _ => false

namespace Casting

open Validation

variable {context : CastContext} {child : NodeCaster} {check : NodeChecker} {s : Schema}
  {v r own : Value} {path : Path} {active : List String}

/-! ## Casts keep what is settled -/

/-- What is settled is no object. -/
lemma isObject_of_isSettled (hv : v.isSettled = true) : v.isObject = false := by
  cases v <;> first | rfl | cases hv

/-- What is settled has no entries. -/
lemma objectView?_of_isSettled (hv : v.isSettled = true) (required : List Value) :
    v.objectView? required = none := by
  cases v <;> first | rfl | cases hv

/-- What is settled has no items. -/
lemma items?_of_isSettled (hv : v.isSettled = true) : v.items? = none := by
  cases v <;> first | rfl | cases hv

/-- The type keeps what is settled. -/
lemma ConvertsByType.settled (hv : v.isSettled = true) (h : ConvertsByType s v r) : r = v := by
  cases h with
  | unasked | text | number | double | integer | boolean => rfl
  | numberText | integerText | wholeDouble | booleanText => cases hv

/-- The conversion by the schema keeps what is settled, or fails. -/
lemma castScalar_settled (hv : v.isSettled = true)
    (h : (castScalar s v path).outcome = .ok r) : r = v := by
  cases castScalar_outcome_ok.1 h with
  | temporal => rfl
  | timestamp | day => cases hv
  | typed _ hr => exact hr.settled hv

/-- The shape of a schema keeps what is settled, or fails. -/
lemma castOwn_settled (hv : v.isSettled = true)
    (h : (castOwn child s v path active).outcome = .ok r) : r = v := by
  rcases castOwn_outcome_ok.1 h with ⟨-, h⟩ | ⟨-, -, h⟩ | ⟨-, -, h, -⟩
  · obtain ⟨data, -, -, hview, -⟩ := castObject_outcome_ok.1 h
    rw [objectView?_of_isSettled hv] at hview
    cases hview
  · obtain ⟨items, -, hitems, -⟩ := castArray_outcome_ok.1 h
    rw [items?_of_isSettled hv] at hitems
    cases hitems
  · exact castScalar_settled hv h

/-- Nodes in turn keep what each of them keeps. -/
lemma castInTurn_keeps {nodes : List Node}
    (hchild : ∀ c ∈ nodes, ∀ r, (child c v path active).outcome = .ok r → r = v)
    (h : (castInTurn child path active v nodes).outcome = .ok r) : r = v := by
  induction nodes with
  | nil => exact (Except.ok.inj h).symm
  | cons c cs ih =>
    obtain ⟨next, hnext, hrest⟩ := bind_outcome_ok.1 h
    have hkept := hchild c List.mem_cons_self next hnext
    rw [hkept] at hrest
    exact ih (fun c' hc' => hchild c' (List.mem_cons_of_mem c hc')) hrest

/-- Two values of which the first is no object are combined to the second. -/
lemma combine_of_not_object {chosen : Value} (hown : own.isObject = false) :
    combine s own chosen = chosen := by
  unfold combine
  rw [hown, Bool.false_and, if_neg Bool.false_ne_true, ite_self]

/-- Members keep what is made of a value that is no object, if each of them keeps it. -/
lemma castAllOf_keeps (hobject : v.isObject = false)
    (hchild : ∀ c ∈ s.allOfList, ∀ r, (child c own path active).outcome = .ok r → r = own)
    (h : (castAllOf child s v own path active).outcome = .ok r) : r = own := by
  unfold castAllOf at h
  rw [hobject, if_neg Bool.false_ne_true] at h
  split at h
  · exact (Except.ok.inj h).symm
  · exact castInTurn_keeps hchild h

/-- Alternatives keep what is no object, if each of them keeps it. -/
lemma castAlternative_keeps (hobject : v.isObject = false) (hnot : own.isObject = false)
    (hchild : ∀ c ∈ alternatives s, ∀ r, (child c own path active).outcome = .ok r → r = own)
    (h : (castAlternative child check s v own path active).outcome = .ok r) : r = own := by
  cases hsome : s.hasAlternatives with
  | false =>
    rw [castAlternative_eq_pure hsome] at h
    exact (Except.ok.inj h).symm
  | true =>
    obtain ⟨c, hc, chosen, hchosen, -, heq⟩ := castAlternative_outcome_ok hsome h
    rw [hobject, if_neg Bool.false_ne_true] at hchosen
    rw [heq, combine_of_not_object hnot]
    exact hchild c hc chosen hchosen

/-- **Composition keeps what the shape of a schema has made**, if that is no object and the nodes
that apply to the value itself keep it: members and alternatives have nothing to merge, and no
record is built. -/
lemma castComposed_keeps (hobject : v.isObject = false) (hnot : own.isObject = false)
    (hchild : ∀ c ∈ s.sameNodes, ∀ r, (child c own path active).outcome = .ok r → r = own)
    (hcast : (castOwn child s v path active).outcome = .ok own)
    (h : (castComposed context child check s v path active).outcome = .ok r) : r = own := by
  obtain ⟨own', all, result, hown', hall, hresult, -, hmaterial⟩ := castComposed_outcome_ok.1 h
  obtain rfl : own = own' := Except.ok.inj (hcast.symm.trans hown')
  have hmembers : all = own :=
    castAllOf_keeps hobject (fun c hc => hchild c (Keywords.mem_sameNodes_allOf hc)) hall
  rw [hmembers] at hresult
  have hchosen : result = own :=
    castAlternative_keeps hobject hnot (fun c hc => hchild c (mem_sameNodes_of_alternatives hc))
      hresult
  rcases materialize_cases hmaterial with heq | ⟨_, _, -, heq, -⟩
  · rw [heq, hchosen]
  · rw [← hchosen, heq] at hnot
    cases hnot

/-- No schema is selected for what is settled. -/
lemma dispatch_settled {registry : Registry} (hv : v.isSettled = true) :
    dispatch child registry s v path active = pure none := by
  unfold dispatch
  cases s.discriminator with
  | none => rfl
  | some d => cases v <;> first | rfl | cases hv

/-- A schema keeps null where it is allowed, refuses it where a type is asked for, and casts all
else that is settled by its keywords. -/
lemma castSchema_settled (hv : v.isSettled = true) :
    castSchema context child check s v path active =
      if v.isNull && s.nullable.isTruthy then pure .null
      else if v.isNull && s.type.isSome then
        failCast ("Cannot cast null to " ++ Validation.typeText s) path
      else castComposed context child check s v path active := by
  rw [castSchema, dispatch_settled hv, pure_bind]

/-- **What is settled is not cast any further**: a cast of it by a node has that value as its
result, if it has one.

**Proof sketch.** Induction on the depth. No schema is selected; the shape of a schema keeps the
value, and so do the nodes of its composition. -/
lemma castNode_settled {depth : Nat} {node : Node} (hv : v.isSettled = true)
    (h : (castNode context depth node v path active).outcome = .ok r) : r = v := by
  induction depth, node using context.registry.node_induction generalizing r path active with
  | zero node => cases h
  | unknown depth name hget =>
    rw [castNode_unknown hget] at h
    cases h
  | named depth name s hget ih =>
    rw [castNode_named hget] at h
    exact ih h
  | link depth name other hget ih =>
    rw [castNode_link hget] at h
    exact ih h
  | schema depth s ih =>
    rw [castNode_schema, castSchema_settled hv] at h
    split at h
    next hnull =>
      obtain rfl := Except.ok.inj h
      rw [Bool.and_eq_true] at hnull
      cases v <;> first | rfl | cases hnull.1
    next =>
      split at h
      next => cases h
      next =>
        obtain ⟨own, -, -, hown, -⟩ := castComposed_outcome_ok.1 h
        obtain rfl := castOwn_settled hv hown
        exact castComposed_keeps (isObject_of_isSettled hv) (isObject_of_isSettled hv)
          (fun c _ r hr => ih c hr) hown h

end Casting

end DataSchema
