import DataSchema.Proofs.CheckLeeway
import DataSchema.Proofs.Descent
import DataSchema.Proofs.Keywords

set_option autoImplicit false

/-!
# Soundness of casts

What a cast makes of a value conforms to the schema, if the schema has no keyword that casts leave
to checks: then every keyword that a check looks at has been looked at by the cast before it. Two
things are left over. An exclusive choice is not checked to be the only one, and alternatives that
were never tried on the result can stop a check although they did not stop the cast.

## Main definitions

* `DataSchema.Keywords.AsksAlike` — schemas whose casts ask for all that their checks ask for.
* `DataSchema.Keywords.shapeNodes` — the nodes that a schema casts parts of a value by.
* `DataSchema.Soundness.Passes` — checks that find ambiguous choices at most.
* `DataSchema.Soundness.Untried` — why the check of a result may stop.

## Main results

* `DataSchema.Soundness.castObject_passes`, `DataSchema.Soundness.castArray_passes`,
  `DataSchema.Soundness.castComposed_passes` — casts of objects, arrays and schemas.
* `DataSchema.Soundness.castNode_passes` — casts by nodes, at every depth.
* `DataSchema.validate_of_cast` — casts of whole values.
-/

namespace DataSchema

namespace Keywords

/-- The nodes that a schema casts parts of a value by, if it is not composed. -/
def shapeNodes (s : Schema) : List Node := if s.isComposed then [] else s.partNodes

/-- The cast by a schema asks for all that its check asks for. A schema with alternatives adds
nothing to them, and one that is not composed has no keyword for a shape that it does not cast. -/
structure AsksAlike (s : Schema) : Prop where
  /-- No other schema is selected. -/
  discriminator : s.discriminator = none
  /-- No record is built. -/
  targetType : s.targetType = .absent
  /-- Alternatives are all there is. -/
  alternatives : s.hasAlternatives = true →
    (s.oneOfList = [] ∨ s.anyOfList = []) ∧ s.properties = none ∧ s.allOfList = []
  /-- The type is known. -/
  type : s.isComposed = false → ∀ name, s.type ≠ some (.unknown name)
  /-- Values are listed only where no object or array is cast. -/
  enum : s.isComposed = false → s.enum.isSome → s.asksForScalar = true ∨
    s.type = none ∧ s.properties = none ∧ s.items = none
  /-- Without a type and declared properties, nothing is asked of objects. -/
  object : s.isComposed = false → s.type = none → s.properties = none → s.required = [] ∧
    (s.additional = .unspecified ∨ s.additional = .flag true) ∧ s.minProperties.isNull = true ∧
    s.maxProperties.isNull = true
  /-- Without a type and a node for items, nothing is asked of arrays. -/
  array : s.isComposed = false → s.type = none → s.items = none → s.minItems.isNull = true ∧
    s.maxItems.isNull = true ∧ s.uniqueItems.isTruthy = false
  /-- Required properties are not left out. -/
  required : s.isComposed = false → ∀ n ∈ s.required, s.declares n = true ∨
    Casting.keepsExtra s = true
  /-- Properties are declared once. -/
  names : (s.declared.map Prod.fst).Nodup

end Keywords

namespace Soundness

open Validation Casting

variable {P : Fault → Prop}

/-- Issues that say no more than that a choice is ambiguous. -/
def Ambiguous (is : List Issue) : Prop := ∀ i ∈ is, i.kind = .ambiguousMatch

/-- A check that finds ambiguous choices at most, or stops for one of the given reasons. -/
inductive Passes (P : Fault → Prop) : Check → Prop
  | ok {is : List Issue} : Ambiguous is → Passes P (.ok is)
  | stops {f : Fault} : P f → Passes P (.error f)

/-- No issue is none of another kind. -/
lemma ambiguous_nil : Ambiguous [] := fun _ hi => absurd hi List.not_mem_nil

/-- Issues of two lots put together. -/
lemma Ambiguous.append {is js : List Issue} (hi : Ambiguous is) (hj : Ambiguous js) :
    Ambiguous (is ++ js) :=
  List.forall_mem_append.2 ⟨hi, hj⟩

namespace Passes

/-- A check that finds nothing passes. -/
lemma nil : Passes P (.ok []) := .ok ambiguous_nil

/-- Checks in a row pass when each does. -/
lemma bind {x : Check} {f : List Issue → Check} (hx : Passes P x)
    (hf : ∀ is, Ambiguous is → Passes P (f is)) : Passes P (x >>= f) := by
  cases hx with
  | ok h => exact hf _ h
  | stops h => exact .stops h

/-- Checks of several things pass when each does. -/
lemma gather {α : Type} {xs : List α} {f : α → Check} (h : ∀ x ∈ xs, Passes P (f x)) :
    Passes P (gather xs f) := by
  cases hall : Validation.gather xs f with
  | ok is =>
    refine .ok fun i hi => ?_
    obtain ⟨x, hx, part, hpart, hi⟩ := mem_of_gather hall hi
    have hpass := h x hx
    rw [hpart] at hpass
    cases hpass with
    | ok hpart => exact hpart i hi
  | error f =>
    obtain ⟨x, hx, hf⟩ := gather_eq_error hall
    have hpass := h x hx
    rw [hf] at hpass
    cases hpass with
    | stops hf => exact .stops hf

end Passes

/-! ## Objects -/

variable {child : NodeCaster} {check : NodeChecker} {s : Schema} {v r : Value} {path : Path}
  {active : List String}

/-- What a node makes of any value at a location passes the check of that node there. -/
def PartsPass (P : Fault → Prop) (child : NodeCaster) (check : NodeChecker) (node : Node) : Prop :=
  ∀ v r path active, (child node v path active).outcome = .ok r → Passes P (check node r path)

/-- Undeclared properties are cast to undeclared properties. -/
lemma castExtra_undeclared {data others : Entries}
    (h : (castExtra child s (undeclared s data) path active).outcome = .ok others) :
    ∀ e ∈ others, s.declares e.1 = false := by
  have hkeys := castExtra_keys h
  intro e he
  have hmem : e.1 ∈ others.map Prod.fst := List.mem_map_of_mem he
  rw [hkeys] at hmem
  split at hmem
  · obtain ⟨e', he', heq⟩ := List.mem_map.1 hmem
    have hnot := (List.mem_filter.1 he').2
    rw [heq, Bool.not_eq_true'] at hnot
    exact hnot
  · cases hmem

section object

variable {data declared others : Entries}

/-- Under a declared name a result has what the declared properties were cast to. -/
lemma get?_result
    (hothers : (castExtra child s (undeclared s data) path active).outcome = .ok others)
    {name : String} (hname : s.declares (.str name) = true) :
    Entries.get? (declared ++ others) (.str name) = declared.get? (.str name) := by
  have habsent : others.get? (.str name) = none := by
    refine Entries.get?_eq_none fun e he hkey => ?_
    have hnot := castExtra_undeclared hothers e he
    rw [hkey, hname] at hnot
    cases hnot
  rw [Entries.get?_append, habsent, Option.or_none]

/-- A declared property of a result is what its node made of a value. -/
lemma property_result
    (hdeclared : (castDeclared child data path active s.declared).outcome = .ok declared)
    (hothers : (castExtra child s (undeclared s data) path active).outcome = .ok others)
    {name : String} {node : Node} (hnode : s.declared.lookup name = some node) {w : Value}
    (hw : Entries.get? (declared ++ others) (.str name) = some w) :
    ∃ v, (child node v (path ++ [.str name]) active).outcome = .ok w := by
  have hdeclares : s.declares (.str name) = true :=
    Keywords.declares_iff.2 ⟨(name, node), mem_of_lookup hnode, rfl⟩
  rw [get?_result hothers hdeclares] at hw
  rcases castDeclared_get? hdeclared hnode with ⟨-, hnone⟩ | ⟨v, r, -, hr, hsome⟩
  · rw [hnone] at hw
    cases hw
  · rw [hsome] at hw
    obtain rfl := Option.some.inj hw
    exact ⟨v, hr⟩

/-- A declared property of a result passes the check of its node. -/
lemma property_passes (hchild : ∀ c ∈ s.partNodes, PartsPass P child check c)
    (hnames : (s.declared.map Prod.fst).Nodup)
    (hdeclared : (castDeclared child data path active s.declared).outcome = .ok declared)
    (hothers : (castExtra child s (undeclared s data) path active).outcome = .ok others)
    {p : String × Node} (hp : p ∈ s.declared) {w : Value}
    (hw : Entries.get? (declared ++ others) (.str p.1) = some w) :
    Passes P (check p.2 w (path ++ [.str p.1])) := by
  obtain ⟨v, hv⟩ := property_result hdeclared hothers (lookup_eq_of_nodup hnames hp) hw
  exact hchild _ (Keywords.mem_partNodes_declared hp) _ _ _ _ hv

/-- Declared properties of a result pass. -/
lemma checkProperties_passes (hchild : ∀ c ∈ s.partNodes, PartsPass P child check c)
    (hnames : (s.declared.map Prod.fst).Nodup)
    (hdeclared : (castDeclared child data path active s.declared).outcome = .ok declared)
    (hothers : (castExtra child s (undeclared s data) path active).outcome = .ok others) :
    Passes P (checkProperties check s (declared ++ others) path) := by
  refine .gather fun p hp => ?_
  split
  next w hw => exact property_passes hchild hnames hdeclared hothers hp hw
  next => exact .nil

/-- A key that is there and not declared is the key of an undeclared property. -/
lemma exists_mem_undeclared {n : Value} (hn : s.declares n = false) (hdata : data.has n = true) :
    ∃ e ∈ undeclared s data, e.1.sameKey n = true := by
  obtain ⟨e, he, hkey⟩ := Entries.has_iff.1 hdata
  refine ⟨e, List.mem_filter.2 ⟨he, ?_⟩, hkey⟩
  rw [Bool.not_eq_true', Bool.eq_false_iff]
  intro hcontra
  obtain ⟨p, hp, heq⟩ := Keywords.declares_iff.1 hcontra
  rw [heq, Value.str_sameKey] at hkey
  rw [Keywords.declares_iff.2 ⟨p, hp, hkey⟩] at hn
  cases hn

/-- A required name of an object is there in the result. -/
lemma has_of_required {n : Value} (hn : s.declares n = true ∨ keepsExtra s = true)
    (hdata : data.has n = true)
    (hdeclared : (castDeclared child data path active s.declared).outcome = .ok declared)
    (hothers : (castExtra child s (undeclared s data) path active).outcome = .ok others) :
    Entries.has (declared ++ others) n = true := by
  rw [Entries.has_append]
  cases hdeclares : s.declares n with
  | true =>
    left
    obtain ⟨p, hp, rfl⟩ := Keywords.declares_iff.1 hdeclares
    obtain ⟨node, hnode⟩ := lookup_of_mem hp
    rcases castDeclared_get? hdeclared hnode with ⟨hnone, -⟩ | ⟨v, r, -, -, hsome⟩
    · rw [Entries.has, hnone] at hdata
      cases hdata
    · rw [Entries.has, hsome]
      rfl
  | false =>
    right
    have hkeeps : keepsExtra s = true := hn.resolve_left (by simp [hdeclares])
    have hkeys := castExtra_keys hothers
    rw [if_pos hkeeps] at hkeys
    rw [Entries.has_of_keys hkeys, Entries.has_iff]
    exact exists_mem_undeclared hdeclares hdata

/-- The undeclared properties of a result are those that it was put together with. -/
lemma undeclared_result_eq
    (hdeclared : (castDeclared child data path active s.declared).outcome = .ok declared)
    (hothers : (castExtra child s (undeclared s data) path active).outcome = .ok others) :
    undeclared s (declared ++ others) = others := by
  have hnone : undeclared s declared = [] := by
    refine List.filter_eq_nil_iff.2 fun e he => ?_
    obtain ⟨p, hp, hkey, -⟩ := castDeclared_keys hdeclared e he
    rw [Keywords.declares_iff.2 ⟨p, hp, hkey⟩]
    exact Bool.false_ne_true
  have hall : undeclared s others = others :=
    List.filter_eq_self.2 fun e he => by rw [castExtra_undeclared hothers e he, Bool.not_false]
  unfold undeclared at *
  rw [List.filter_append, hnone, hall, List.nil_append]

/-- Where undeclared properties are forbidden, a result has none. -/
lemma undeclared_result_eq_nil (hforbidden : s.additional = .flag false)
    (hdeclared : (castDeclared child data path active s.declared).outcome = .ok declared)
    (hothers : (castExtra child s (undeclared s data) path active).outcome = .ok others) :
    undeclared s (declared ++ others) = [] := by
  have hkeys := castExtra_keys hothers
  rw [keepsExtra, hforbidden] at hkeys
  rw [undeclared_result_eq hdeclared hothers]
  exact List.map_eq_nil_iff.1 hkeys

/-- An undeclared property of a result passes the check of the node for such properties. -/
lemma extra_passes (hchild : ∀ c ∈ s.partNodes, PartsPass P child check c) {node : Node}
    (hnode : s.additional = .schema node)
    (hdeclared : (castDeclared child data path active s.declared).outcome = .ok declared)
    (hothers : (castExtra child s (undeclared s data) path active).outcome = .ok others)
    {e : Value × Value} (he : e ∈ undeclared s (declared ++ others)) :
    Passes P (check node e.2 (path ++ [e.1])) := by
  obtain ⟨v, -, hv⟩ := castExtra_schema hnode hothers e
    (undeclared_result_eq hdeclared hothers ▸ he)
  exact hchild _ (Keywords.mem_partNodes_additional hnode) _ _ _ _ hv

/-- Undeclared properties of a result pass. -/
lemma checkAdditional_passes (hchild : ∀ c ∈ s.partNodes, PartsPass P child check c)
    (hdeclared : (castDeclared child data path active s.declared).outcome = .ok declared)
    (hothers : (castExtra child s (undeclared s data) path active).outcome = .ok others) :
    Passes P (checkAdditional check s (declared ++ others) path) := by
  unfold checkAdditional
  split
  next => exact .nil
  next => exact .nil
  next hforbidden =>
    rw [undeclared_result_eq_nil hforbidden hdeclared hothers]
    exact .nil
  next node hnode => exact .gather fun e he => extra_passes hchild hnode hdeclared hothers he

end object

/-- A number of properties that is within the bounds passes. -/
lemma checkPropertyCount_eq_nil {count : Nat} (hfew : below count s.minProperties = .ok false)
    (hmany : above count s.maxProperties = .ok false) :
    checkPropertyCount s count path = .ok [] := by
  simp [checkPropertyCount, hfew, hmany, bind, Except.bind, issueIf]

/-- Required names that are there pass. -/
lemma gather_required_eq_nil {names : List Value} {es : Entries}
    (h : ∀ n ∈ names, n.isKey = true ∧ es.has n = true) :
    Validation.gather names (checkRequiredName es path) = .ok [] := by
  refine gather_eq_nil.2 fun n hn => ?_
  obtain ⟨hkey, hhas⟩ := h n hn
  simp [checkRequiredName, hkey, hhas, issueIf]

/-- An object with the required properties, enough and not too many of them, passes if its
properties do. -/
lemma checkObject_of_parts {es : Entries} (hdeclared : checkProperties check s es path = .ok [])
    (hrequired : ∀ n ∈ s.required, n.isKey = true ∧ es.has n = true)
    (hadditional : checkAdditional check s es path = .ok [])
    (hfew : below es.length s.minProperties = .ok false)
    (hmany : above es.length s.maxProperties = .ok false) :
    checkObject check s (.mapping es) path = .ok [] := by
  unfold checkObject
  dsimp only [Value.objectView?]
  rw [hdeclared, gather_required_eq_nil hrequired, hadditional, checkPropertyCount_eq_nil hfew hmany]
  rfl

/-- **Objects are cast to objects that pass.** -/
lemma castObject_passes (hchild : ∀ c ∈ s.partNodes, PartsPass P child check c)
    (hnames : (s.declared.map Prod.fst).Nodup)
    (hrequired : ∀ n ∈ s.required, s.declares n = true ∨ keepsExtra s = true)
    (h : (castObject child s v path active).outcome = .ok r) :
    (∃ es, r = .mapping es) ∧ Passes P (checkObject check s r path) := by
  obtain ⟨data, declared, others, -, hthere, -, hdeclared, hothers, hfew, hmany, rfl⟩ :=
    castObject_outcome_ok.1 h
  refine ⟨⟨_, rfl⟩, ?_⟩
  unfold checkObject
  refine (checkProperties_passes hchild hnames hdeclared hothers).bind fun properties hp => ?_
  rw [gather_required_eq_nil fun n hn => ⟨(hthere n hn).1,
    has_of_required (hrequired n hn) (hthere n hn).2 hdeclared hothers⟩]
  refine Passes.nil.bind fun required hr => ?_
  refine (checkAdditional_passes hchild hdeclared hothers).bind fun additional ha => ?_
  rw [checkPropertyCount_eq_nil hfew hmany]
  exact Passes.nil.bind fun count hc => .ok (((hp.append hr).append ha).append hc)

/-! ## Arrays -/

/-- A number of items that is within the bounds passes. -/
lemma checkItemCount_eq_nil {count : Nat} (hfew : below count s.minItems = .ok false)
    (hmany : above count s.maxItems = .ok false) : checkItemCount s count path = .ok [] := by
  simp [checkItemCount, hfew, hmany, bind, Except.bind, issueIf]

/-- **Arrays are cast to arrays that pass.** -/
lemma castArray_passes (hchild : ∀ c ∈ s.partNodes, PartsPass P child check c)
    (h : (castArray child s v path active).outcome = .ok r) :
    (∃ items, r = .list items) ∧ Passes P (checkArray check s r path) := by
  obtain ⟨items, result, -, hresult, hfew, hmany, hunique, rfl⟩ := castArray_outcome_ok.1 h
  refine ⟨⟨_, rfl⟩, ?_⟩
  have hitems : Passes P (checkItems check s result path) := by
    unfold checkItems
    split
    next => exact .nil
    next node hnode =>
      refine .gather fun item hitem => ?_
      obtain ⟨v, -, hv⟩ := castItems_getElem? hnode hresult (List.mem_zipIdx_iff_getElem?.1 hitem)
      exact hchild node (Keywords.mem_partNodes_items hnode) _ _ _ _ hv
  unfold checkArray
  refine hitems.bind fun each he => ?_
  rw [checkItemCount_eq_nil hfew hmany, hunique]
  exact Passes.nil.bind fun count hc => .ok ((he.append hc).append ambiguous_nil)

/-! ## The shape of a schema itself -/

/-- The keywords of a schema apart from composition pass, and null is not of the wrong type. -/
structure OwnPasses (P : Fault → Prop) (check : NodeChecker) (s : Schema) (r : Value)
    (path : Path) : Prop where
  notNull : (r.isNull && s.type.isSome) = false
  type : checkType s r path = []
  enum : checkEnum s r path = []
  scalar : Passes P (checkScalar s r path)
  object : Passes P (checkObject check s r path)
  array : Passes P (checkArray check s r path)

/-- A schema passes when null is allowed and there, or when its keywords pass. -/
lemma checkSchema_passes (h : (r.isNull && s.nullable.isTruthy) = false →
    OwnPasses P check s r path ∧ Passes P (checkComposition check s r path)) :
    Passes P (checkSchema check s r path) := by
  unfold checkSchema
  split
  next => exact .nil
  next hnull =>
    obtain ⟨hown, hcomposition⟩ := h (Bool.eq_false_iff.2 hnull)
    rw [hown.notNull, if_neg Bool.false_ne_true]
    unfold checkKeywords
    refine hown.scalar.bind fun scalar hs => hown.object.bind fun object ho => ?_
    refine hown.array.bind fun array ha => hcomposition.bind fun composition hc => ?_
    rw [hown.type, hown.enum]
    exact .ok ((((ambiguous_nil.append hs).append ho).append ha).append hc)

/-- A format says nothing of objects and arrays; one that cannot be looked up stops the check. -/
lemma checkFormat_container (hr : r.isObject = true ∨ r.isArray = true) (format : Value) :
    checkFormat r format = .ok none ∨
      checkFormat r format = .error .notKey ∧ format.isKey = false := by
  unfold checkFormat
  split
  · exact .inl rfl
  · split
    · left
      split
      next known _ =>
        cases r <;> simp [Value.isObject, Value.isArray, Value.items?] at hr <;> cases known <;> rfl
      next => rfl
    · cases hkey : format.isKey with
      | true => exact .inl rfl
      | false => exact .inr ⟨rfl, rfl⟩

/-- Keywords for scalars say nothing of objects and arrays, but for a format that cannot be looked
up. -/
lemma checkScalar_container (hformat : s.format.isKey = false → P .notKey)
    (hr : r.isObject = true ∨ r.isArray = true) : Passes P (checkScalar s r path) := by
  have htext : textIssues s r path = .ok [] := by
    cases r <;> simp_all [textIssues, Value.isObject, Value.isArray, Value.items?]
  have hnumber : numberIssues s r path = .ok [] := by
    cases r <;> simp_all [numberIssues, Value.number?, Value.isObject, Value.isArray, Value.items?]
  rw [checkScalar_eq, htext, hnumber, checkFormatKeyword_eq]
  refine Passes.nil.bind fun text ht => Passes.nil.bind fun number hn => ?_
  rcases checkFormat_container hr s.format with h | ⟨h, hkey⟩
  · rw [h]
    exact .ok ((ht.append hn).append ambiguous_nil)
  · rw [h]
    exact .stops (hformat hkey)

/-- Where an object is cast, no values are listed, and neither is an array. -/
lemma enum_eq_none_of_castsObject (hs : s.AsksAlike) (hplain : s.isComposed = false)
    (h : castsObject s v = true ∨ castsArray s v = true) : s.enum = none := by
  cases henum : s.enum with
  | none => rfl
  | some members =>
    rcases hs.enum hplain (by rw [henum]; rfl) with hscalar | ⟨htype, hproperties, hitems⟩
    · obtain ⟨hobject, harray⟩ := castsParts_of_asksForScalar hscalar v
      simp [hobject, harray] at h
    · simp [castsObject_eq_true, castsArray_eq_true, htype, hproperties, hitems] at h

/-- Objects that are not cast as such pass, if nothing is asked of them. -/
lemma checkObject_untouched (hs : s.AsksAlike) (hplain : s.isComposed = false)
    (htype : s.type = none) (h : castsObject s r = false) :
    Passes P (checkObject check s r path) := by
  unfold checkObject
  cases hr : r.isObject with
  | false => cases r <;> simp_all [Value.isObject, Value.objectView?, Passes.nil]
  | true =>
    have hproperties : s.properties = none := by
      simpa [castsObject, htype, hr] using h
    obtain ⟨hrequired, hadditional, hmin, hmax⟩ := hs.object hplain htype hproperties
    split
    next => exact .nil
    next data _ =>
      have hdeclared : checkProperties check s data path = .ok [] := by
        rw [checkProperties, Keywords.declared, hproperties]
        rfl
      have hextra : checkAdditional check s data path = .ok [] := by
        rcases hadditional with h | h <;> rw [checkAdditional, h]
      have hcount : checkPropertyCount s data.length path = .ok [] :=
        checkPropertyCount_eq_nil (by rw [below, hmin, if_pos rfl])
          (by rw [above, hmax, if_pos rfl])
      rw [hdeclared, hrequired, hextra, hcount]
      exact .nil

/-- Arrays that are not cast as such pass, if nothing is asked of them. -/
lemma checkArray_untouched (hs : s.AsksAlike) (hplain : s.isComposed = false)
    (htype : s.type = none) (h : castsArray s r = false) :
    Passes P (checkArray check s r path) := by
  unfold checkArray
  split
  next => exact .nil
  next items hr =>
    have hitems : s.items = none := by
      simpa [castsArray, htype, Value.isArray, hr] using h
    obtain ⟨hmin, hmax, hunique⟩ := hs.array hplain htype hitems
    have heach : checkItems check s items path = .ok [] := by
      rw [checkItems, hitems]
    have hcount : checkItemCount s items.length path = .ok [] :=
      checkItemCount_eq_nil (by rw [below, hmin, if_pos rfl]) (by rw [above, hmax, if_pos rfl])
    have hdistinct : checkUnique s items path = [] := by
      rw [checkUnique, hunique, if_neg Bool.false_ne_true]
    rw [heach, hcount, hdistinct]
    exact .nil

/-- A value of the type that is asked for has no issue with it. -/
lemma checkType_eq_nil_of_hasType (h : hasType s r = true) : checkType s r path = [] := by
  rw [checkType, h]
  rfl

/-- Without a list of allowed values there is no issue with it. -/
lemma checkEnum_eq_nil_of_none (h : s.enum = none) : checkEnum s r path = [] := by
  rw [checkEnum, h]

/-- A value that is kept as it is, for no type is asked for, passes. -/
lemma ownPasses_untouched (hs : s.AsksAlike) (hplain : s.isComposed = false)
    (htype : s.type = none) (hnot : castsObject s r = false) (hnot' : castsArray s r = false)
    (henum : checkEnum s r path = []) (hscalar : Passes P (checkScalar s r path)) :
    OwnPasses P check s r path where
  notNull := by rw [htype, Option.isSome_none, Bool.and_false]
  type := checkType_eq_nil_of_hasType (by simp only [hasType, htype])
  enum := henum
  scalar := hscalar
  object := checkObject_untouched hs hplain htype hnot
  array := checkArray_untouched hs hplain htype hnot'

/-- A scalar of the type that is asked for passes. -/
lemma ownPasses_scalar (hs : s.AsksAlike) (hplain : s.isComposed = false)
    (hobject : r.isObject = false) (harray : r.isArray = false) (htype : hasType s r = true)
    (henum : checkEnum s r path = []) (hscalar : Passes P (checkScalar s r path)) :
    OwnPasses P check s r path where
  notNull := by
    have hknown := hs.type hplain
    unfold hasType at htype
    cases r with
    | null =>
      rcases ht : s.type with _ | t
      · rfl
      · cases t <;> simp_all [Value.str?, isTemporal, Value.isInteger, Value.isNumber,
          Value.number?]
    | _ => rfl
  type := checkType_eq_nil_of_hasType htype
  enum := henum
  scalar := hscalar
  object := by
    have hview : r.objectView? s.required = none := by
      cases r <;> simp_all [Value.isObject, Value.objectView?]
    rw [checkObject, hview]
    exact .nil
  array := by
    have hitems : r.items? = none := by
      simpa [Value.isArray] using harray
    rw [checkArray, hitems]
    exact .nil

/-- A mapping has the type that is asked for where objects are cast. -/
lemma hasType_mapping (h : castsObject s v = true) (es : Entries) :
    hasType s (.mapping es) = true := by
  rcases castsObject_eq_true.1 h with htype | ⟨htype, -⟩ <;> simp [hasType, htype, Value.isObject]

/-- A list has the type that is asked for where arrays are cast. -/
lemma hasType_list (h : castsArray s v = true) (items : List Value) :
    hasType s (.list items) = true := by
  rcases castsArray_eq_true.1 h with htype | ⟨htype, -⟩ <;>
    simp [hasType, htype, Value.isArray, Value.items?]

/-- **The shape of a schema casts to what passes.** What is cast as an object or as an array has the
type of one and passes as its parts do; any other value is converted, or left as it is by a schema
that asks for no type. -/
lemma castOwn_passes (hs : s.AsksAlike) (hplain : s.isComposed = false)
    (hformat : s.format.isKey = false → P .notKey)
    (hchild : ∀ c ∈ s.partNodes, PartsPass P child check c)
    (h : (castOwn child s v path active).outcome = .ok r) : OwnPasses P check s r path := by
  rcases castOwn_outcome_ok.1 h with
    ⟨hobject, h⟩ | ⟨hobject, harray, h⟩ | ⟨hobject, harray, h, henum, hchecked⟩
  · obtain ⟨⟨es, rfl⟩, hpass⟩ := castObject_passes hchild hs.names (hs.required hplain) h
    exact {
      notNull := rfl
      type := checkType_eq_nil_of_hasType (hasType_mapping hobject es)
      enum := checkEnum_eq_nil_of_none (enum_eq_none_of_castsObject hs hplain (.inl hobject))
      scalar := checkScalar_container hformat (.inl rfl)
      object := hpass
      array := .nil }
  · obtain ⟨⟨items, rfl⟩, hpass⟩ := castArray_passes hchild h
    exact {
      notNull := rfl
      type := checkType_eq_nil_of_hasType (hasType_list harray items)
      enum := checkEnum_eq_nil_of_none (enum_eq_none_of_castsObject hs hplain (.inr harray))
      scalar := checkScalar_container hformat (.inr rfl)
      object := .nil
      array := hpass }
  · have hscalar : Passes P (checkScalar s r path) := by
      rw [hchecked]
      exact .nil
    rcases (castScalar_outcome_ok.1 h).scalarFrom with ⟨hasks, rfl⟩ | ⟨hnot, hnot', htype⟩
    · have htype : s.type = none :=
        (type_of_castsNeither hasks hobject harray).resolve_right
          fun ⟨name, hname⟩ => hs.type hplain name hname
      exact ownPasses_untouched hs hplain htype hobject harray henum hscalar
    · exact ownPasses_scalar hs hplain hnot hnot' htype henum hscalar

/-! ## Composition -/

/-- Of several nodes, the number that a value conforms to is known, and not zero if there is one
that it conforms to, unless one of them stops the check. -/
lemma conformingCount_passes {nodes : List Node}
    (hstop : ∀ c ∈ nodes, ∀ f, check c r path = .error f → P f) :
    (∃ f, conformingCount check r path nodes = .error f ∧ P f) ∨
      ∃ n, conformingCount check r path nodes = .ok n ∧
        ∀ c ∈ nodes, check c r path = .ok [] → 0 < n := by
  induction nodes with
  | nil => exact .inr ⟨0, rfl, fun c hc => absurd hc List.not_mem_nil⟩
  | cons c cs ih =>
    unfold conformingCount Validation.conforms
    cases hc : check c r path with
    | error f => exact .inl ⟨f, rfl, hstop c List.mem_cons_self f hc⟩
    | ok is =>
      rcases ih fun c' hc' => hstop c' (List.mem_cons_of_mem c hc') with ⟨f, hf, hP⟩ | ⟨n, hn, hpos⟩
      · exact .inl ⟨f, by rw [hf]; rfl, hP⟩
      · refine .inr ⟨_, by rw [hn]; rfl, fun c' hc' hnil => ?_⟩
        rcases List.mem_cons.1 hc' with rfl | hc'
        · rw [hc] at hnil
          obtain rfl := Except.ok.inj hnil
          exact Nat.lt_of_lt_of_le Nat.zero_lt_one (Nat.le_add_right 1 n)
        · exact Nat.lt_of_lt_of_le (hpos c' hc' hnil) (Nat.le_add_left ..)

/-- A value that conforms to one of several nodes is found to, unless one of them stops the
check. -/
lemma conformsToAny_passes {nodes : List Node} {c : Node} (hmem : c ∈ nodes)
    (hc : check c r path = .ok [])
    (hstop : ∀ c ∈ nodes, ∀ f, check c r path = .error f → P f) :
    (∃ f, conformsToAny check r path nodes = .error f ∧ P f) ∨
      conformsToAny check r path nodes = .ok true := by
  induction nodes with
  | nil => cases hmem
  | cons d ds ih =>
    unfold conformsToAny Validation.conforms
    cases hd : check d r path with
    | error f => exact .inl ⟨f, rfl, hstop d List.mem_cons_self f hd⟩
    | ok is =>
      cases is with
      | nil => exact .inr rfl
      | cons i is =>
        rcases List.mem_cons.1 hmem with rfl | hmem
        · rw [hd] at hc
          cases hc
        · exact ih hmem fun c' hc' => hstop c' (List.mem_cons_of_mem d hc')

/-- A value that conforms to an alternative passes, unless one of them stops the check. -/
lemma checkAnyOf_passes (hstop : ∀ c ∈ s.anyOfList, ∀ f, check c r path = .error f → P f)
    (h : s.anyOfList = [] ∨ ∃ c ∈ s.anyOfList, check c r path = .ok []) :
    Passes P (checkAnyOf check s r path) := by
  unfold checkAnyOf
  split
  next => exact .nil
  next hne =>
    obtain ⟨c, hmem, hc⟩ := h.resolve_left fun hnil => hne (by rw [hnil]; rfl)
    rcases conformsToAny_passes hmem hc hstop with ⟨f, hf, hP⟩ | htrue
    · rw [hf]
      exact .stops hP
    · rw [htrue]
      exact .nil

/-- A value that conforms to an alternative is an ambiguous choice at most, unless one of them
stops the check. -/
lemma checkOneOf_passes (hstop : ∀ c ∈ s.oneOfList, ∀ f, check c r path = .error f → P f)
    (h : s.oneOfList = [] ∨ ∃ c ∈ s.oneOfList, check c r path = .ok []) :
    Passes P (checkOneOf check s r path) := by
  unfold checkOneOf
  split
  next => exact .nil
  next hne =>
    obtain ⟨c, hmem, hc⟩ := h.resolve_left fun hnil => hne (by rw [hnil]; rfl)
    rcases conformingCount_passes hstop with ⟨f, hf, hP⟩ | ⟨n, hn, hpos⟩
    · rw [hf]
      exact .stops hP
    · have hne : n ≠ 0 := Nat.pos_iff_ne_zero.1 (hpos c hmem hc)
      rw [hn]
      simp only [bind, Except.bind]
      rw [if_neg hne]
      refine .ok fun i hi => ?_
      unfold issueIf at hi
      split at hi
      · rw [List.mem_singleton.1 hi]
      · cases hi

/-- Where alternatives are all there is, the result conforms to one of them. -/
lemma castAlternative_conforms {own : Value} (hs : s.AsksAlike)
    (hsome : s.hasAlternatives = true)
    (h : (castAlternative child check s v own path active).outcome = .ok r) :
    ∃ c ∈ alternatives s, check c r path = .ok [] := by
  obtain ⟨-, hproperties, hall⟩ := hs.alternatives hsome
  obtain ⟨c, hc, chosen, -, hfits, rfl⟩ := castAlternative_outcome_ok hsome h
  have hcombine : combine s own chosen = chosen := by
    simp [combine, hproperties, hall]
  exact ⟨c, hc, by rw [hcombine]; exact hfits⟩

/-- A value that conforms to a schema without its alternatives passes all keywords but those of
composition, and conforms to all members. -/
lemma ownPasses_of_withoutAlternatives
    (h : checkSchema check s.withoutAlternatives r path = .ok [])
    (hnull : (r.isNull && s.nullable.isTruthy) = false) :
    OwnPasses P check s r path ∧
      Validation.gather s.allOfList (fun node => check node r path) = .ok [] := by
  have hnull' : (r.isNull && s.withoutAlternatives.nullable.isTruthy) = false := hnull
  unfold checkSchema at h
  rw [hnull', if_neg Bool.false_ne_true] at h
  split at h
  next => cases h
  next htype =>
    unfold checkKeywords checkComposition at h
    simp only [bind_eq_ok, pure_eq_ok, Except.ok.injEq] at h
    obtain ⟨scalar, hscalar, object, hobject, array, harray, _,
      ⟨all, hall, any, -, one, -, not, -, rfl⟩, hnil⟩ := h
    simp only [List.append_eq_nil_iff] at hnil
    obtain ⟨⟨⟨⟨⟨hkind, henum⟩, rfl⟩, rfl⟩, rfl⟩, ⟨⟨rfl, -⟩, -⟩, -⟩ := hnil
    refine ⟨?_, hall⟩
    exact {
      notNull := Bool.eq_false_iff.2 htype
      type := hkind
      enum := henum
      scalar := (show checkScalar s r path = .ok [] from hscalar) ▸ Passes.nil
      object := (show checkObject check s r path = .ok [] from hobject) ▸ Passes.nil
      array := (show checkArray check s r path = .ok [] from harray) ▸ Passes.nil }

/-- **A schema casts to what passes**, given that the nodes for parts of the value do, and that
what conforms to a schema one step down conforms to it here.

**Proof sketch.** A schema that is not composed has asked for each of its keywords on the way. One
that is composed has checked the whole result, its alternatives apart, and of these the result
conforms to the chosen one. -/
theorem castComposed_passes {context : CastContext} (hs : s.AsksAlike)
    (hformat : s.format.isKey = false → P .notKey)
    (hstop : ∀ c ∈ s.anyOfList ++ s.oneOfList, ∀ f, check c r path = .error f → P f)
    (hchild : ∀ c ∈ s.shapeNodes, PartsPass P child check c)
    (hwhole : check (.schema s.withoutAlternatives) r path = .ok [] →
      checkSchema check s.withoutAlternatives r path = .ok [])
    (h : (castComposed context child check s v path active).outcome = .ok r) :
    Passes P (checkSchema check s r path) := by
  cases hplain : s.isComposed with
  | false =>
    obtain ⟨hown, hrefuse⟩ := (castComposed_plain hplain hs.targetType).1 h
    refine checkSchema_passes fun _ => ?_
    rw [Keywords.shapeNodes, hplain, if_neg Bool.false_ne_true] at hchild
    refine ⟨castOwn_passes hs hplain hformat hchild hown, ?_⟩
    obtain ⟨hmembers, hone, hany⟩ := Keywords.isComposed_eq_false.1 hplain
    unfold checkComposition checkAnyOf checkOneOf
    rw [hmembers, hone, hany, refuseMatch_outcome_ok.1 hrefuse]
    exact .nil
  | true =>
    obtain ⟨own, all, result, hown, hall, hresult, hrequire, hmaterial⟩ :=
      castComposed_outcome_ok.1 h
    obtain rfl := materialize_outcome_ok hs.targetType hmaterial
    rw [requireWhole_eq, hplain, if_pos rfl] at hrequire
    obtain ⟨_, hconforms, hrefuse⟩ := bind_outcome_ok.1 hrequire
    refine checkSchema_passes fun hnull => ?_
    obtain ⟨hpass, hmembers⟩ :=
      ownPasses_of_withoutAlternatives (hwhole (require_outcome_ok.1 hconforms)) hnull
    refine ⟨hpass, ?_⟩
    have hchosen : (s.anyOfList = [] ∨ ∃ c ∈ s.anyOfList, check c r path = .ok []) ∧
        (s.oneOfList = [] ∨ ∃ c ∈ s.oneOfList, check c r path = .ok []) := by
      cases hsome : s.hasAlternatives with
      | false =>
        obtain ⟨hone, hany⟩ : s.oneOfList = [] ∧ s.anyOfList = [] := by
          simpa [Keywords.hasAlternatives] using hsome
        exact ⟨.inl hany, .inl hone⟩
      | true =>
        have hconforms := castAlternative_conforms hs hsome hresult
        unfold alternatives at hconforms
        split at hconforms
        next hone => exact ⟨.inr hconforms, .inl (by simpa using hone)⟩
        next hone =>
          have hne : s.oneOfList ≠ [] := by simpa using hone
          exact ⟨.inl ((hs.alternatives hsome).1.resolve_left hne), .inr hconforms⟩
    have hany := checkAnyOf_passes (fun c hc => hstop c (List.mem_append_left _ hc)) hchosen.1
    have hone := checkOneOf_passes (fun c hc => hstop c (List.mem_append_right _ hc)) hchosen.2
    unfold checkComposition
    rw [hmembers]
    refine Passes.nil.bind fun members hm => hany.bind fun any ha => hone.bind fun one ho => ?_
    rw [refuseMatch_outcome_ok.1 hrefuse]
    exact .ok (((hm.append ha).append ho).append ambiguous_nil)

/-! ## Nodes -/

/-- Why the check of a result may stop although the cast did not: at the depth guard, at an
alternative that the cast did not try on the result, or at a format of an object or an array that
cannot be looked up. -/
inductive Untried (registry : Registry) (limit : Int) (node : Node) : Fault → Prop
  /-- Nesting exceeds the limit. -/
  | tooDeep {f : Fault} : f.isTooDeep = true → Untried registry limit node f
  /-- An alternative stops the check of a value. -/
  | alternative {s : Schema} {c : Node} {depth : Nat} {v : Value} {path : Path} {f : Fault} :
    registry.Reaches Keywords.shapeNodes node s → c ∈ s.anyOfList ++ s.oneOfList →
    checkNode registry limit depth c v path = .error f → Untried registry limit node f
  /-- A format is no text and cannot be looked up either. -/
  | format {s : Schema} : registry.Reaches Keywords.shapeNodes node s →
    s.format.isKey = false → Untried registry limit node .notKey

/-- **Casts pass checks at every depth**: what a node makes of a value with some depth left passes
the check of the node with as much.

**Proof sketch.** Induction on the depth. A reference hands on to its target; a schema casts parts
of the value one step down, where the check looks at them too, and checks composed values one step
down, which is as good as here. -/
theorem castNode_passes (context : CastContext) (depth : Nat) {node : Node}
    (hs : ∀ s, context.registry.Reaches Keywords.shapeNodes node s → s.AsksAlike) :
    PartsPass (Untried context.registry context.limit node) (castNode context depth)
      (checkNode context.registry context.limit depth) node := by
  intro v r path active h
  refine castNode_induction
    (H := fun s => s.AsksAlike ∧ context.registry.Reaches Keywords.shapeNodes node s)
    (M := fun depth c _ r path => Passes (Untried context.registry context.limit node)
      (checkNode context.registry context.limit depth c r path))
    ?_ ?_ ?_ (fun s hreach => ⟨hs s hreach, hreach⟩) h
  · intro depth name s _ r path hget hpass
    rwa [checkNode_named hget]
  · intro depth name other _ r path hget hpass
    rwa [checkNode_link hget]
  · rintro depth s v r path active ⟨halike, hreach⟩ hparts h
    rcases (castSchema_outcome_ok halike.discriminator).1 h with ⟨hnull, rfl⟩ | ⟨-, -, hcast⟩
    · refine checkSchema_passes fun hnot => ?_
      rw [(Bool.and_eq_true_iff.1 hnull).2] at hnot
      cases hnot
    · exact castComposed_passes halike (fun hkey => .format hreach hkey)
        (fun c hc f hf => .alternative hreach hc hf) hparts
        (fun hchecked => checkNode_mono (Nat.le_succ depth) hchecked) hcast

end Soundness

open Soundness

/-- **Casts are sound, up to what they leave to checks.** If every schema that parts of the value
are cast by asks for all that its check asks for, then validation of the result finds ambiguous
choices at most. It stops, if at all, at the depth guard, at an alternative that the cast did not
try on the result, or at a format that cannot be looked up; so nothing but ambiguous choices and the
depth guard is left exactly when neither of the other two stops it. -/
theorem validate_of_cast {context : CastContext} {node : Node}
    (hs : ∀ s, context.registry.Reaches Keywords.shapeNodes node s → s.AsksAlike) {v r : Value}
    (h : (cast context node v).outcome = .ok (.ok r)) :
    Passes (Untried context.registry context.limit node)
        (validate context.registry node r context.limit) ∧
      (Passes (fun f => f.isTooDeep = true) (validate context.registry node r context.limit) ↔
        escapes (validate context.registry node r context.limit) = false) := by
  have hpass : Passes (Untried context.registry context.limit node)
      (validate context.registry node r context.limit) :=
    castNode_passes context context.limit.toNat hs v r [] [] (cast_outcome_ok.1 h)
  refine ⟨hpass, ?_⟩
  rw [escapes_eq_false]
  constructor
  · intro hsound f hf
    rw [hf] at hsound
    cases hsound with
    | stops hf => exact hf
  · intro hdeep
    generalize validate context.registry node r context.limit = x at hpass hdeep
    cases hpass with
    | ok his => exact .ok his
    | stops hf => exact .stops (hdeep _ rfl)

/-- A truth value or else a text. -/
def flagOrText : Schema where
  oneOf := some [.schema { type := some .boolean }, .schema { type := some .string }]

/-- An object with a truth value or a text under a name. -/
def flagged : Schema where
  type := some .object
  properties := some [("flag", .schema flagOrText)]
  required := [.str "flag"]

/-- The cast by an object with a flag asks for all that its check asks for. -/
lemma flagged_asksAlike (s : Schema)
    (h : Registry.Reaches ⟨[]⟩ Keywords.shapeNodes (.schema flagged) s) : s.AsksAlike := by
  cases h with
  | here =>
    constructor <;> simp [flagged, Keywords.hasAlternatives, Keywords.oneOfList,
      Keywords.anyOfList, Keywords.declares, Keywords.declared, Value.equal]
  | child hc h =>
    rw [List.mem_singleton.1 hc] at h
    cases h with
    | here =>
      constructor <;> simp [flagOrText, Keywords.isComposed, Keywords.hasAlternatives,
        Keywords.oneOfList, Keywords.anyOfList, Keywords.allOfList, Keywords.declared]
    | child hc _ => cases hc

/-- A text that names a truth value becomes one, an undeclared property is left out, and the result
passes. -/
theorem flagged_cast_passes :
    (cast ⟨⟨[]⟩, .generic, 9⟩ (.schema flagged)
        (.mapping [(.str "flag", .str "True"), (.str "more", .null)])).outcome =
      .ok (.ok (.mapping [(.str "flag", .bool true)])) ∧
    Passes (fun f => f.isTooDeep = true)
      (validate ⟨[]⟩ (.schema flagged) (.mapping [(.str "flag", .bool true)]) 9) := by
  have hcast : (cast ⟨⟨[]⟩, .generic, 9⟩ (.schema flagged)
        (.mapping [(.str "flag", .str "True"), (.str "more", .null)])).outcome =
      .ok (.ok (.mapping [(.str "flag", .bool true)])) := rfl
  exact ⟨hcast, (validate_of_cast flagged_asksAlike hcast).2.2 rfl⟩

/-- Whole numbers, or else multiples of three. -/
def integerOrMultiple : Schema where
  oneOf := some [.schema { type := some .integer }, .schema { multipleOf := .int 3 }]

/-- A whole number that no double comes near. -/
def hugeNumber : Int := Int.pow 10 400

/-- A number too large to be divided is cast by the first alternative and stops the check of the
second, which the cast did not try. -/
theorem validate_cast_escapes :
    (∀ s, Registry.Reaches ⟨[]⟩ Keywords.shapeNodes (.schema integerOrMultiple) s →
      s.AsksAlike) ∧
    (cast ⟨⟨[]⟩, .generic, 9⟩ (.schema integerOrMultiple) (.int hugeNumber)).outcome =
      .ok (.ok (.int hugeNumber)) ∧
    escapes (validate ⟨[]⟩ (.schema integerOrMultiple) (.int hugeNumber) 9) = true := by
  refine ⟨fun s h => ?_, rfl, by decide +kernel⟩
  cases h with
  | here =>
    constructor <;> simp [integerOrMultiple, Keywords.isComposed, Keywords.hasAlternatives,
      Keywords.oneOfList, Keywords.anyOfList, Keywords.allOfList, Keywords.declared]
  | child hc _ => cases hc

end DataSchema
