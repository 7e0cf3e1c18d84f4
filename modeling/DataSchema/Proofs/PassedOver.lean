import Mathlib
import DataSchema.Proofs.CastKeyOrder
import DataSchema.Proofs.Enclosure
import DataSchema.Proofs.Records
import DataSchema.Proofs.UnrelatedEntries

set_option autoImplicit false

/-!
# Keywords that casts pass over

A schema without nodes below it casts an object or an array in one of three ways. Where it asks for
an object or an array, the keywords for the parts of one are met, but not those that the value meets
as a whole: the format and the values that are allowed. Where it asks for no type that is known,
these are met, and the keywords for objects and arrays are passed over. Either way the value keeps
its entries or items, and a check finds in it what it finds for the keywords that are passed over.

## Main definitions

* `DataSchema.Keywords.IsChildless` — schemas that cast by their own shape, with no nodes below.
* `DataSchema.Keywords.passedOver` — the keywords that casts of objects and arrays pass over.

## Main results

* `DataSchema.Casting.castOwn_childless` — what such a schema makes of an object or an array.
* `DataSchema.validate_of_cast_childless` — what a check finds in it.
-/

namespace DataSchema

namespace Keywords

/-- A schema casts by its own shape, and has no nodes below it. -/
structure IsChildless (s : Schema) : Prop extends s.IsPlain where
  /-- Properties are not given. -/
  properties : s.properties = none
  /-- There are no nodes for parts of the value or for the value itself. -/
  children : s.children = []

/-- The keywords that a schema passes over in a cast of an object or an array: its format and its
list of allowed values if it asks for an object or an array, and the keywords for these if it does
not. -/
def passedOver (s : Schema) : Schema :=
  match s.type with
  | some .object | some .array => { format := s.format, enum := s.enum }
  | _ => { s with type := none, format := .null, enum := none }

namespace IsChildless

variable {s : Schema}

/-- No properties are declared. -/
lemma declared (hs : s.IsChildless) : s.declared = [] := by
  rw [Keywords.declared, hs.properties, Option.getD_none]

/-- No key is declared. -/
lemma declares (hs : s.IsChildless) (k : Value) : s.declares k = false := by
  rw [Keywords.declares, hs.declared, List.any_nil]

/-- All properties are undeclared. -/
lemma undeclared (hs : s.IsChildless) (es : Entries) : Validation.undeclared s es = es := by
  rw [Validation.undeclared, List.filter_eq_self]
  exact fun e _ => by rw [hs.declares, Bool.not_false]

/-- No node applies to undeclared properties. -/
lemma additional (hs : s.IsChildless) (c : Node) : s.additional ≠ .schema c := by
  intro hnode
  have hc := mem_children_of_part (mem_partNodes_additional hnode)
  rw [hs.children] at hc
  cases hc

/-- No node applies to items. -/
lemma items (hs : s.IsChildless) : s.items = none := by
  refine Option.eq_none_iff_forall_not_mem.2 fun c hitems => ?_
  have hc := mem_children_of_part (mem_partNodes_items hitems)
  rw [hs.children] at hc
  cases hc

/-- There is nothing that must not match. -/
lemma notSchema (hs : s.IsChildless) : s.notSchema = none := by
  refine Option.eq_none_iff_forall_not_mem.2 fun c hnot => ?_
  have hc := mem_children_of_same (mem_sameNodes_not hnot)
  rw [hs.children] at hc
  cases hc

/-- What is passed over has no nodes below it either. -/
lemma passedOver (hs : s.IsChildless) : s.passedOver.IsChildless := by
  unfold Keywords.passedOver
  split
  · exact ⟨⟨rfl, rfl, rfl⟩, rfl, rfl⟩
  · exact ⟨⟨rfl, rfl, rfl⟩, rfl, rfl⟩
  · exact ⟨⟨hs.composed, hs.discriminator, hs.targetType⟩, hs.properties, hs.children⟩

end IsChildless

end Keywords

namespace Validation

variable {check : NodeChecker} {s : Schema} {r : Value} {path : Path}

/-- Without alternatives, members, and what must not match, nothing is found in a composition. -/
lemma checkComposition_eq_nil_of_plain (hplain : s.isComposed = false) (hnot : s.notSchema = none) :
    checkComposition check s r path = .ok [] := by
  obtain ⟨hmembers, hone, hany⟩ := Keywords.isComposed_eq_false.1 hplain
  unfold checkComposition checkAnyOf checkOneOf checkNot
  rw [hmembers, hone, hany, hnot]
  rfl

/-- Of the keywords for scalars only the format applies to an object or an array. -/
lemma checkScalar_eq_format (hr : r.isObject = true ∨ r.isArray = true) :
    checkScalar s r path = checkFormatKeyword s r path := by
  have htext : textIssues s r path = .ok [] := by
    cases r <;> simp_all [textIssues, Value.isObject, Value.isArray, Value.items?]
  have hnumber : numberIssues s r path = .ok [] := by
    cases r <;> simp_all [numberIssues, Value.number?, Value.isObject, Value.isArray, Value.items?]
  rw [checkScalar_eq, htext, hnumber]
  rcases checkFormatKeyword s r path with f | is <;> rfl

/-- An object or an array is checked by five groups of keywords, if there are no nodes below. -/
lemma checkSchema_childless (hs : s.IsChildless) (hr : r.isObject = true ∨ r.isArray = true) :
    checkSchema check s r path = (do
      let format ← checkFormatKeyword s r path
      let object ← checkObject check s r path
      let array ← checkArray check s r path
      return checkType s r path ++ checkEnum s r path ++ format ++ object ++ array) := by
  have hnull : r.isNull = false := by
    cases r <;> simp_all [Value.isObject, Value.isArray, Value.items?, Value.isNull]
  have hok : ∀ (is : List Issue) (f : List Issue → Check), (Except.ok is >>= f) = f is :=
    fun _ _ => rfl
  unfold checkSchema checkKeywords
  rw [hnull, checkComposition_eq_nil_of_plain hs.composed hs.notSchema, checkScalar_eq_format hr]
  simp only [Bool.false_and, Bool.false_eq_true, if_false, hok, List.append_nil]

/-- A schema that asks for nothing of objects finds nothing in one. -/
lemma checkObject_passedOver (format : Value) (enum : Option (List Value)) :
    checkObject check { format := format, enum := enum } r path = .ok [] := by
  unfold checkObject
  split <;> rfl

/-- A schema that asks for nothing of arrays finds nothing in one. -/
lemma checkArray_passedOver (format : Value) (enum : Option (List Value)) :
    checkArray check { format := format, enum := enum } r path = .ok [] := by
  unfold checkArray
  split <;> rfl

/-- What meets the keywords for parts of an object or an array that is asked for is checked by what
is passed over. -/
lemma checkSchema_passedOver_typed (hs : s.IsChildless)
    (htype : s.type = some .object ∨ s.type = some .array)
    (hr : r.isObject = true ∨ r.isArray = true) (hhas : hasType s r = true)
    (hobject : checkObject check s r path = .ok []) (harray : checkArray check s r path = .ok []) :
    checkSchema check s r path = checkSchema check s.passedOver r path := by
  have hpassed : s.passedOver = { format := s.format, enum := s.enum } := by
    unfold Keywords.passedOver
    rcases htype with htype | htype <;> rw [htype]
  rw [checkSchema_childless hs hr, checkSchema_childless hs.passedOver hr, hobject, harray, hpassed,
    checkObject_passedOver, checkArray_passedOver, Soundness.checkType_eq_nil_of_hasType hhas]
  rfl

/-- What meets its format and is one of the values that are allowed is checked by what is passed
over, if no type is asked for that is known. -/
lemma checkSchema_passedOver_untyped (hs : s.IsChildless)
    (htype : s.type = none ∨ ∃ name, s.type = some (.unknown name))
    (hr : r.isObject = true ∨ r.isArray = true) (henum : checkEnum s r path = [])
    (hformat : checkFormatKeyword s r path = .ok []) :
    checkSchema check s r path = checkSchema check s.passedOver r path := by
  have hpassed : s.passedOver = { s with type := none, format := .null, enum := none } := by
    unfold Keywords.passedOver
    rcases htype with htype | ⟨name, htype⟩ <;> rw [htype]
  have hhas : hasType s r = true := by
    rcases htype with htype | ⟨name, htype⟩ <;> simp only [hasType, htype]
  rw [checkSchema_childless hs hr, checkSchema_childless hs.passedOver hr, henum, hformat, hpassed,
    Soundness.checkType_eq_nil_of_hasType hhas]
  rfl

end Validation

namespace Casting

open Validation

variable {child : NodeCaster} {check : NodeChecker} {s : Schema} {v r : Value} {path : Path}
  {active : List String}

/-- Without declared properties an object is cast as such only where one is asked for. -/
lemma castsObject_childless (hs : s.IsChildless) :
    castsObject s v = true ↔ s.type = some .object := by
  rw [castsObject_eq_true, hs.properties]
  simp

/-- Without a schema for items an array is cast as such only where one is asked for. -/
lemma castsArray_childless (hs : s.IsChildless) : castsArray s v = true ↔ s.type = some .array := by
  rw [castsArray_eq_true, hs.items]
  simp

/-- An object is cast to its entries, which meet the keywords for objects. -/
lemma castObject_childless (check : NodeChecker) (hs : s.IsChildless)
    (h : (castObject child s v path active).outcome = .ok r) :
    ∃ data, v.objectView? s.required = some data ∧ r = .mapping data ∧
      checkObject check s r path = .ok [] := by
  obtain ⟨data, declared, others, hdata, hthere, hforbidden, hdeclared, hothers, hfew, hmany,
    rfl⟩ := castObject_outcome_ok.1 h
  rw [hs.undeclared] at hforbidden hothers
  rw [hs.declared] at hdeclared
  obtain rfl := Except.ok.inj hdeclared
  have hall : others = data := by
    rcases castExtra_outcome_ok.1 hothers with ⟨-, rfl⟩ | ⟨c, hnode, -⟩
    · unfold keepsExtra
      cases hadditional : s.additional with
      | unspecified => rw [hs.properties]; rfl
      | flag allowed =>
        cases allowed with
        | true => rfl
        | false => exact (hforbidden hadditional).symm
      | schema c => exact absurd hadditional (hs.additional c)
    · exact absurd hnode (hs.additional c)
  subst hall
  rw [List.nil_append] at hfew hmany
  refine ⟨others, hdata, rfl, ?_⟩
  have hproperties : checkProperties check s others path = .ok [] := by
    rw [checkProperties, hs.declared]
    rfl
  have hadditional : checkAdditional check s others path = .ok [] := by
    unfold checkAdditional
    rw [hs.undeclared]
    split
    next => rfl
    next => rfl
    next hflag =>
      rw [hforbidden hflag]
      rfl
    next c hnode => exact absurd hnode (hs.additional c)
  exact Soundness.checkObject_of_parts hproperties hthere hadditional hfew hmany

/-- An array is cast to its items, which meet the keywords for arrays. -/
lemma castArray_childless (check : NodeChecker) (hs : s.IsChildless)
    (h : (castArray child s v path active).outcome = .ok r) :
    ∃ items, v.items? = some items ∧ r = .list items ∧ checkArray check s r path = .ok [] := by
  obtain ⟨items, result, hitems, hresult, hfew, hmany, hunique, rfl⟩ := castArray_outcome_ok.1 h
  rw [castItems, hs.items] at hresult
  obtain rfl := Except.ok.inj hresult
  refine ⟨items, hitems, rfl, ?_⟩
  unfold checkArray checkItems
  dsimp only [Value.items?]
  rw [hs.items, Soundness.checkItemCount_eq_nil hfew hmany, hunique]
  rfl

/-- **What a schema without nodes below makes** of an object or an array: the same entries or items,
in which its check finds what is found for the keywords that are passed over. -/
theorem castOwn_childless (hs : s.IsChildless) (hv : v.isObject = true ∨ v.isArray = true)
    (h : (castOwn child s v path active).outcome = .ok r) :
    r.objectView? s.required = v.objectView? s.required ∧ r.items? = v.items? ∧
      checkSchema check s r path = checkSchema check s.passedOver r path := by
  rcases castOwn_outcome_ok.1 h with ⟨hcasts, hobject⟩ | ⟨-, hcasts, harray⟩ |
    ⟨hnot, hnot', hscalar, henum, hformat⟩
  · have htype := (castsObject_childless hs).1 hcasts
    obtain ⟨data, hdata, rfl, hnone⟩ := castObject_childless check hs hobject
    have hitems : v.items? = none := by
      cases v with
      | list _ | tuple _ => cases hdata
      | _ => rfl
    refine ⟨hdata.symm, hitems.symm, ?_⟩
    exact checkSchema_passedOver_typed hs (.inl htype) (.inl rfl)
      (by simp only [hasType, htype]; rfl) hnone rfl
  · have htype := (castsArray_childless hs).1 hcasts
    obtain ⟨items, hitems, rfl, hnone⟩ := castArray_childless check hs harray
    have hdata : v.objectView? s.required = none := by
      cases v with
      | mapping _ | record _ _ => cases hitems
      | _ => rfl
    refine ⟨hdata.symm, hitems.symm, ?_⟩
    exact checkSchema_passedOver_typed hs (.inr htype) (.inr rfl)
      (by simp only [hasType, htype]; rfl) rfl hnone
  · rw [castScalar_container hv] at hscalar
    split at hscalar
    next => cases hscalar
    next hscalarless =>
      obtain rfl := Except.ok.inj hscalar
      have htype := type_of_castsNeither (Bool.eq_false_iff.2 hscalarless) hnot hnot'
      rw [checkScalar_eq_format hv] at hformat
      exact ⟨rfl, rfl, checkSchema_passedOver_untyped hs htype hv henum hformat⟩

end Casting

/-- **Casts of objects and arrays meet all keywords but those that are passed over.** Let a schema
cast by its own shape, with no nodes below it, and let it cast an object or an array. Then the
entries or items stay as they are, and the check of the result by the schema comes to the same as
its check by the keywords that are passed over. So no issue is found in the result exactly when
these find none.

**Proof sketch.** `Casting.castOwn_childless` for the shape of the schema. A check without nodes
below does not depend on the depth that is left. -/
theorem validate_of_cast_childless {context : CastContext} {node : Node} {s : Schema}
    (hnode : context.registry.Resolves node s) (hs : s.IsChildless) {v r : Value}
    (hv : v.isObject = true ∨ v.isArray = true) (h : (cast context node v).outcome = .ok (.ok r)) :
    r.objectView? s.required = v.objectView? s.required ∧ r.items? = v.items? ∧
      validate context.registry node r context.limit =
        validate context.registry (.schema s.passedOver) r context.limit := by
  obtain ⟨left, opened, hleft, hcast, hcheck⟩ :=
    Casting.castNode_resolves_alike hnode (cast_outcome_ok.1 h)
  have hnull : v.isNull = false := by
    cases v <;> simp_all [Value.isObject, Value.isArray, Value.items?, Value.isNull]
  have hown := Casting.castSchema_plain hs.toIsPlain hnull hcast
  obtain ⟨hentries, hitems, hsame⟩ := Casting.castOwn_childless hs hv hown
  obtain ⟨depth, hdepth⟩ : ∃ depth, context.limit.toNat = depth + 1 :=
    Nat.exists_eq_succ_of_ne_zero (by omega)
  refine ⟨hentries, hitems, (hcheck r []).trans (hsame.trans ?_)⟩
  rw [validate, hdepth]
  refine Validation.checkSchema_congr (fun c hc => ?_) r []
  rw [hs.passedOver.children] at hc
  cases hc

/-- Rows that do not repeat items, where no type is asked for. -/
def distinctRow : Schema where
  uniqueItems := .bool true

/-- What has an identifier, where no type is asked for. -/
def identified : Schema where
  required := [.str "id"]

/-- The only row that is allowed, where an array is asked for. -/
def onlyRow : Schema where
  type := some .array
  uniqueItems := .bool true
  enum := some [.list [.str "north", .str "south"]]

/-- The only row by name. -/
def rows : Registry := ⟨[("Row", .schema onlyRow)]⟩

/-- The row that is allowed is cast to its items, and found to be allowed. -/
theorem onlyRow_cast :
    rows.Resolves (.ref "Row") onlyRow ∧ onlyRow.IsChildless ∧
      (Value.tuple [.str "north", .str "south"]).isArray = true ∧
      (cast ⟨rows, .generic, 9⟩ (.ref "Row") (.tuple [.str "north", .str "south"])).outcome =
        .ok (.ok (.list [.str "north", .str "south"])) ∧
      validate rows (.ref "Row") (.list [.str "north", .str "south"]) 9 = .ok [] := by
  have hrow : rows.Resolves (.ref "Row") onlyRow := .ref rfl (.schema onlyRow)
  have hchildless : onlyRow.IsChildless := ⟨⟨rfl, rfl, rfl⟩, rfl, rfl⟩
  have hcast : (cast ⟨rows, .generic, 9⟩ (.ref "Row")
      (.tuple [.str "north", .str "south"])).outcome =
        .ok (.ok (.list [.str "north", .str "south"])) := by
    cbv
  obtain ⟨-, -, hsame⟩ := validate_of_cast_childless hrow hchildless (.inr rfl) hcast
  have hpassed : validate rows (.schema onlyRow.passedOver) (.list [.str "north", .str "south"]) 9 =
      .ok [] := by
    cbv
  exact ⟨hrow, hchildless, rfl, hcast, hsame.trans hpassed⟩

/-- Casts pass over required names and repeated items where no type is asked for, and over the
values that are allowed where an array is. -/
theorem keywords_passed_over :
    identified.IsChildless ∧ distinctRow.IsChildless ∧ onlyRow.IsChildless ∧
      (cast ⟨⟨[]⟩, .generic, 9⟩ (.schema identified) (.mapping [])).outcome =
        .ok (.ok (.mapping [])) ∧
      (validate ⟨[]⟩ (.schema identified) (.mapping []) 9).map (List.map Issue.kind) =
        .ok [.missingRequiredProperty] ∧
      (cast ⟨⟨[]⟩, .generic, 9⟩ (.schema distinctRow) (.list [.str "a", .str "a"])).outcome =
        .ok (.ok (.list [.str "a", .str "a"])) ∧
      (validate ⟨[]⟩ (.schema distinctRow) (.list [.str "a", .str "a"]) 9).map
        (List.map Issue.kind) = .ok [.constraintViolation] ∧
      (cast ⟨⟨[]⟩, .generic, 9⟩ (.schema onlyRow) (.list [])).outcome = .ok (.ok (.list [])) ∧
      (validate ⟨[]⟩ (.schema onlyRow) (.list []) 9).map (List.map Issue.kind) =
        .ok [.notInEnum] :=
  ⟨⟨⟨rfl, rfl, rfl⟩, rfl, rfl⟩, ⟨⟨rfl, rfl, rfl⟩, rfl, rfl⟩, ⟨⟨rfl, rfl, rfl⟩, rfl, rfl⟩,
    by cbv, by cbv, by cbv, by rfl, by cbv, by cbv⟩

end DataSchema
