import DataSchema.Proofs.Acceptance

set_option autoImplicit false

/-!
# Casts of data that conforms

Where schemas describe values and do no more, a cast of data that conforms succeeds and changes no
data: whole doubles become whole numbers, tuples become lists, and properties change their order.
The checks that a cast repeats on what it has made see nothing of these changes, so that they find
nothing where validation has found nothing.

## Main definitions

* `DataSchema.Value.IsPlain` — data with texts as keys and without not-a-number.
* `DataSchema.Keywords.OnlyDescribes` — schemas that describe values and do no more.

## Main results

* `DataSchema.Value.IsPlain.jsonEqual_self` — data equals itself.
* `DataSchema.Validation.checkScalar_whole` — what is asked of a whole double, and of the whole
  number.
* `DataSchema.Casting.castObject_conforming`, `DataSchema.Casting.castArray_conforming`,
  `DataSchema.Casting.castScalar_conforming` — casts of objects, arrays and scalars.
* `DataSchema.Casting.castNode_conforming` — casts by nodes, at every depth.
* `DataSchema.jsonEqual_of_validate` — casts of whole values.
-/

namespace DataSchema

/-! ## Data -/

namespace Value

/-- A value is plain data: null, a truth value, a number, a text, an array of plain data of either
kind, or a mapping from distinct texts to plain data. -/
inductive IsPlain : Value → Prop
  | null : IsPlain null
  | bool (b : Bool) : IsPlain (bool b)
  | int (n : Int) : IsPlain (int n)
  | float {x : Binary64} : x ≠ .nan → IsPlain (float x)
  | str (text : String) : IsPlain (str text)
  | array {v : Value} {items : List Value} : v.items? = some items → (∀ w ∈ items, IsPlain w) →
    IsPlain v
  | mapping {es : Entries} : es.Named → (∀ e ∈ es, IsPlain e.2) → IsPlain (mapping es)

/-- Items that each equal themselves equal themselves. -/
lemma jsonEqualItems_self {vs : List Value} (h : ∀ v ∈ vs, v.jsonEqual v = true) :
    jsonEqualItems vs vs = true := by
  induction vs with
  | nil => rfl
  | cons v vs ih =>
    rw [jsonEqualItems, h v List.mem_cons_self, ih fun w hw => h w (List.mem_cons_of_mem v hw)]
    rfl

namespace IsPlain

variable {v : Value}

/-- The items of an array of plain data are plain data. -/
lemma item {items : List Value} (h : v.IsPlain) (hitems : v.items? = some items) {w : Value}
    (hw : w ∈ items) : w.IsPlain := by
  cases h with
  | array hitems' hall =>
    obtain rfl := Option.some.inj (hitems.symm.trans hitems')
    exact hall w hw
  | _ => cases hitems

/-- A plain object is a mapping from distinct texts to plain data. -/
lemma of_isObject (h : v.IsPlain) (hobject : v.isObject = true) :
    ∃ es : Entries, v = .mapping es ∧ es.Named ∧ ∀ e ∈ es, e.2.IsPlain := by
  cases h with
  | @array v items hitems _ =>
    cases v with
    | mapping _ | record _ _ => cases hitems
    | _ => cases hobject
  | mapping hes hall => exact ⟨_, rfl, hes, hall⟩
  | _ => cases hobject

/-- Plain data equals itself. -/
lemma jsonEqual_self (h : v.IsPlain) : v.jsonEqual v = true := by
  induction h with
  | null => rfl
  | bool b => exact beq_self_eq_true b
  | int n => exact beq_self_eq_true (Extent.at _)
  | @float x hx =>
    cases x with
    | nan => exact absurd rfl hx
    | infinity negative => exact beq_self_eq_true (if negative then Extent.bottom else .top)
    | finite negative units _ => exact beq_self_eq_true (Extent.at _)
  | str text => exact beq_self_eq_true text
  | array hitems _ ih =>
    rw [jsonEqual_of_items hitems, hitems]
    exact jsonEqualItems_self ih
  | @mapping es hes _ ih =>
    rw [jsonEqual, beq_self_eq_true, Bool.true_and, jsonEqualEntries_named hes, List.all_eq_true]
    intro e he
    rw [hes.get?_of_mem he]
    exact ih e he

end IsPlain

end Value

/-! ## Schemas that describe values -/

/-- A schema describes values and does no more: it is not composed, selects no other schema, builds
no record, and asks for no format and no multiples. If it declares properties, it says what holds
for others. -/
structure Keywords.OnlyDescribes (s : Schema) : Prop extends s.IsDirect where
  /-- There are no members and no alternatives. -/
  plain : s.isComposed = false
  /-- There is nothing that must not match. -/
  notSchema : s.notSchema = none
  /-- No format is asked for. -/
  format : s.format = .null
  /-- No multiples are asked for. -/
  multipleOf : s.multipleOf = .null
  /-- If properties are declared, others are allowed, forbidden, or described. -/
  additional : s.properties.isSome = true → s.additional ≠ .unspecified

/-- A schema that only describes values leaves no property out: it keeps what is not declared, or
forbids it. -/
lemma Keywords.OnlyDescribes.keeps {s : Schema} (hs : s.OnlyDescribes) :
    Casting.keepsExtra s = true ∨ s.additional = .flag false := by
  unfold Casting.keepsExtra
  cases hadditional : s.additional with
  | unspecified =>
    left
    rw [← Option.not_isSome, Bool.not_eq_true']
    exact eq_false_of_ne_true fun hsome => hs.additional hsome hadditional
  | flag allowed =>
    cases allowed with
    | true => exact .inl rfl
    | false => exact .inr rfl
  | schema c => exact .inl rfl

/-! ## Checks that find nothing -/

namespace Validation

open Conformance (boundIssues_eq_nil)

variable {child : NodeChecker} {s : Schema} {v : Value} {path : Path}

/-- Where the keywords find nothing, no kind of them does. -/
lemma checkKeywords_eq_ok_nil (h : checkKeywords child s v path = .ok []) :
    checkType s v path = [] ∧ checkEnum s v path = [] ∧ checkScalar s v path = .ok [] ∧
      checkObject child s v path = .ok [] ∧ checkArray child s v path = .ok [] := by
  simp only [checkKeywords, bind_eq_ok, pure_eq_ok, Except.ok.injEq, List.append_eq_nil_iff] at h
  obtain ⟨scalar, hscalar, object, hobject, array, harray, _, -,
    ⟨⟨⟨⟨htype, henum⟩, rfl⟩, rfl⟩, rfl⟩, -⟩ := h
  exact ⟨htype, henum, hscalar, hobject, harray⟩

/-- Where nothing is found in an object, its declared properties are right, required ones are there,
undeclared ones are right, and it has as many as it may. -/
lemma checkObject_eq_ok_nil {data : Entries}
    (h : checkObject child s (.mapping data) path = .ok []) :
    checkProperties child s data path = .ok [] ∧
      (∀ n ∈ s.required, n.isKey = true ∧ data.has n = true) ∧
      checkAdditional child s data path = .ok [] ∧
      below data.length s.minProperties = .ok false ∧
      above data.length s.maxProperties = .ok false := by
  simp only [checkObject, Value.objectView?, checkPropertyCount, bind_eq_ok, pure_eq_ok,
    Except.ok.injEq] at h
  obtain ⟨declared, hdeclared, required, hrequired, additional, hadditional, _,
    ⟨few, hfew, many, hmany, rfl⟩, hnone⟩ := h
  simp only [List.append_eq_nil_iff, issueIf_eq_nil] at hnone
  obtain ⟨⟨⟨rfl, rfl⟩, rfl⟩, rfl, rfl⟩ := hnone
  refine ⟨hdeclared, fun n hn => ?_, hadditional, hfew, hmany⟩
  have hname := gather_eq_nil.1 hrequired n hn
  unfold checkRequiredName at hname
  split at hname
  next => cases hname
  next hkey => exact ⟨by simpa using hkey, by simpa using issueIf_eq_nil.1 (Except.ok.inj hname)⟩

/-- Where nothing is found in an object, nothing is found in its properties. -/
lemma exists_checked_property {data : Entries}
    (h : checkObject child s (.mapping data) path = .ok []) {name : String} {w : Value} {c : Node}
    (hw : data.get? (.str name) = some w) (hc : s.propertyNode? name = some c) :
    ∃ q, child c w q = .ok [] := by
  obtain ⟨hdeclared, -, hadditional, -⟩ := checkObject_eq_ok_nil h
  rcases Option.or_eq_some_iff.1 hc with hc | ⟨hnone, hc⟩
  · have hp := gather_eq_nil.1 hdeclared _ (mem_of_lookup hc)
    rw [hw] at hp
    exact ⟨_, hp⟩
  · rw [checkAdditional, Additional.node?_eq_some.1 hc] at hadditional
    refine ⟨_, gather_eq_nil.1 hadditional (.str name, w) (List.mem_filter.2 ⟨?_, ?_⟩)⟩
    · exact Entries.mem_of_get? hw
    · rw [Keywords.declares_eq_false.2 hnone]
      rfl

/-- Where nothing is found in an array, its items are right, they are as many as they may be, and
none is repeated that must not be. -/
lemma checkArray_eq_ok_nil {items : List Value} (hitems : v.items? = some items)
    (h : checkArray child s v path = .ok []) :
    checkItems child s items path = .ok [] ∧ below items.length s.minItems = .ok false ∧
      above items.length s.maxItems = .ok false ∧ checkUnique s items path = [] := by
  unfold checkArray at h
  rw [hitems] at h
  simp only [checkItemCount, bind_eq_ok, pure_eq_ok, Except.ok.injEq] at h
  obtain ⟨each, heach, _, ⟨few, hfew, many, hmany, rfl⟩, hnone⟩ := h
  simp only [List.append_eq_nil_iff, issueIf_eq_nil] at hnone
  obtain ⟨⟨rfl, rfl, rfl⟩, hunique⟩ := hnone
  exact ⟨heach, hfew, hmany, hunique⟩

/-- Where nothing is found in an array, nothing is found in its items. -/
lemma exists_checked_item {items : List Value} (h : checkItems child s items path = .ok [])
    {c : Node} (hc : s.items = some c) {w : Value} (hw : w ∈ items) :
    ∃ q, child c w q = .ok [] := by
  unfold checkItems at h
  rw [hc] at h
  obtain ⟨i, hi⟩ := List.getElem?_of_mem hw
  exact ⟨_, gather_eq_nil.1 h (w, i) (List.mem_zipIdx_iff_getElem?.2 hi)⟩

/-! ## Scalars -/

/-- A bound finds nothing exactly if there is none, or if it is a number to which the number at hand
stands as it has to. -/
lemma checkBound_eq_ok_nil {n : Number} {bound exclusive : Value}
    {strictly weakly : Number → Number → Bool} {excludedWords includedWords : String}
    (hweak : ∀ b, strictly n b = true → weakly n b = true) :
    checkBound n v bound exclusive strictly weakly excludedWords includedWords path = .ok [] ↔
      bound.isNull = true ∨ ∃ b, keywordNumber bound = .ok b ∧
        (if exclusive.isTruthy then !weakly n b else !strictly n b) = true := by
  rw [checkBound_eq]
  cases bound.isNull with
  | true => simp
  | false =>
    simp only [Bool.false_eq_true, if_false, map_eq_ok, false_or]
    exact exists_congr fun b => and_congr_right fun _ => boundIssues_eq_nil (hweak b)

/-- Where no multiples are asked for, nothing is found in a number if nothing is found in one at the
same place. -/
lemma checkNumber_of_extent {a b : Number} {w : Value} (hplace : a.extent? = b.extent?)
    (hmultiple : s.multipleOf = .null) (h : checkNumber s a v path = .ok []) :
    checkNumber s b w path = .ok [] := by
  have hnone : ∀ n u, checkMultiple n u s.multipleOf path = .ok [] := fun n u => by
    rw [checkMultiple, hmultiple]
    rfl
  simp only [checkNumber, hnone, bind_eq_ok, pure_eq_ok, Except.ok.injEq, List.append_eq_nil_iff]
    at h
  obtain ⟨_, hlow, _, hhigh, _, rfl, ⟨rfl, rfl⟩, -⟩ := h
  have hless : ∀ c, a.less c = b.less c ∧ c.less a = c.less b ∧ a.atMost c = b.atMost c ∧
      c.atMost a = c.atMost b := fun c => by
    simp only [Number.atMost, Number.less, Number.equal, hplace, and_self]
  have hweak : ∀ m n : Number, m.less n = true → m.atMost n = true := fun m n hmn => by
    rw [Number.atMost, hmn, Bool.true_or]
  rw [checkBound_eq_ok_nil (hweak _)] at hlow
  rw [checkBound_eq_ok_nil fun c => hweak c _] at hhigh
  simp only [hless] at hlow hhigh
  rw [checkNumber, (checkBound_eq_ok_nil (hweak _)).2 hlow,
    (checkBound_eq_ok_nil fun c => hweak c _).2 hhigh, hnone]
  rfl

/-- **What is asked of a whole double is asked of the whole number**, where neither a format nor
multiples are. -/
lemma checkScalar_whole {x : Binary64} {n : Int} (hx : x.toInt? = some n)
    (hformat : s.format = .null) (hmultiple : s.multipleOf = .null)
    (h : checkScalar s (.float x) path = .ok []) : checkScalar s (.int n) path = .ok [] := by
  have hnone : ∀ u, checkFormatKeyword s u path = .ok [] := fun u => by
    rw [checkFormatKeyword, hformat]
    rfl
  simp only [checkScalar, hnone, Value.number?, bind_eq_ok, pure_eq_ok, Except.ok.injEq,
    List.append_eq_nil_iff] at h
  obtain ⟨_, -, _, hnumber, _, rfl, ⟨-, rfl⟩, -⟩ := h
  simp only [checkScalar, hnone, Value.number?,
    checkNumber_of_extent (w := .int n) (Value.extent?_whole hx) hmultiple hnumber]
  rfl

end Validation

namespace Casting

open Validation

variable {context : CastContext} {child : NodeCaster} {check : NodeChecker} {s : Schema} {v : Value}
  {path : Path} {active : List String}

/-- A node casts a value wherever it stands, and changes no data in it. -/
def CastsSame (child : NodeCaster) (c : Node) (v : Value) (active : List String) : Prop :=
  ∀ path, ∃ r, (child c v path active).outcome = .ok r ∧ v.SameData r

/-- A node that casts a value makes no other data of it. -/
lemma CastsSame.sameData {c : Node} {r : Value} (h : CastsSame child c v active)
    (hr : (child c v path active).outcome = .ok r) : v.SameData r := by
  obtain ⟨r', hr', hsame⟩ := h path
  rwa [Except.ok.inj (hr.symm.trans hr')]

/-! ## Objects and arrays -/

/-- Declared properties are cast when each of those that are there is. -/
lemma exists_castDeclared {data : Entries} {ps : List (String × Node)}
    (hchild : ∀ p ∈ ps, ∀ w, data.get? (.str p.1) = some w → CastsSame child p.2 w active) :
    ∃ declared, (castDeclared child data path active ps).outcome = .ok declared := by
  induction ps with
  | nil => exact ⟨[], rfl⟩
  | cons p ps ih =>
    obtain ⟨rest, hrest⟩ := ih fun p' hp' => hchild p' (List.mem_cons_of_mem p hp')
    unfold castDeclared
    split
    next => exact ⟨rest, hrest⟩
    next w hw =>
      obtain ⟨r, hr, -⟩ := hchild p List.mem_cons_self w hw (path ++ [.str p.1])
      exact ⟨(.str p.1, r) :: rest, bind_outcome_ok.2 ⟨r, hr, bind_outcome_ok.2 ⟨rest, hrest, rfl⟩⟩⟩

/-- Undeclared properties are cast when each is by the node for them. -/
lemma exists_castExtra {extra : Entries}
    (hchild : ∀ c, s.additional = .schema c → ∀ e ∈ extra, CastsSame child c e.2 active) :
    ∃ others, (castExtra child s extra path active).outcome = .ok others := by
  cases hnode : s.additional.node? with
  | none => exact ⟨_, by rw [castExtra_eq_pure hnode, Traced.outcome_pure]⟩
  | some c =>
    have hadditional := Additional.node?_eq_some.1 hnode
    unfold castExtra
    rw [hadditional]
    dsimp only
    rw [Traced.outcome_mapM]
    refine exists_mapM_eq_ok fun e he => ?_
    obtain ⟨r, hr, -⟩ := hchild c hadditional e he (path ++ [e.1])
    exact ⟨(e.1, r), bind_outcome_ok.2 ⟨r, hr, rfl⟩⟩

/-- **An object in which nothing is found is cast**, with the same data, if its properties are by
the nodes that apply to them. -/
lemma castObject_conforming {data : Entries} (hs : s.OnlyDescribes) (hdata : data.Named)
    (hcheck : checkObject check s (.mapping data) path = .ok [])
    (hchild : ∀ name w c, data.get? (.str name) = some w → s.propertyNode? name = some c →
      CastsSame child c w active) :
    ∃ r, (castObject child s (.mapping data) path active).outcome = .ok r ∧
      (Value.mapping data).SameData r := by
  obtain ⟨-, hrequired, hadditional, hfew, hmany⟩ := checkObject_eq_ok_nil hcheck
  have hrefuse : s.additional = .flag false → undeclared s data = [] := fun hforbidden => by
    rw [checkAdditional, hforbidden] at hadditional
    exact List.map_eq_nil_iff.1 (Except.ok.inj hadditional)
  obtain ⟨declared, hdeclared⟩ : ∃ declared,
      (castDeclared child data path active s.declared).outcome = .ok declared :=
    exists_castDeclared fun p hp w hw =>
      hchild p.1 w p.2 hw (Keywords.propertyNode?_declared hs.names hp)
  obtain ⟨others, hothers⟩ : ∃ others,
      (castExtra child s (undeclared s data) path active).outcome = .ok others := by
    refine exists_castExtra fun c hc e he => ?_
    obtain ⟨name, -, hget, hnode⟩ := Keywords.propertyNode?_undeclared hdata hc he
    exact hchild name e.2 c hget hnode
  rw [← castObject_length hdata hs.names hs.keeps hrefuse hdeclared hothers] at hfew hmany
  have hcast : (castObject child s (.mapping data) path active).outcome =
      .ok (.mapping (declared ++ others)) := castObject_outcome_ok.2
    ⟨data, declared, others, rfl, hrequired, hrefuse, hdeclared, hothers, hfew, hmany, rfl⟩
  obtain ⟨fs, heq, hfs, hsame, hall⟩ := castObject_related .same hdata hs.names hs.keeps
    (fun name w c hw hc p r hr => (hchild name w c hw hc).sameData hr) hcast
  obtain rfl := Value.mapping.inj heq
  exact ⟨_, hcast, .mapping hdata hfs hsame hall⟩

/-- Items are cast when each is by the node for items. -/
lemma exists_castItems {items : List Value}
    (hchild : ∀ c, s.items = some c → ∀ w ∈ items, CastsSame child c w active) :
    ∃ result, (castItems child s items path active).outcome = .ok result := by
  unfold castItems
  split
  next => exact ⟨items, rfl⟩
  next c hc =>
    rw [Traced.outcome_mapM]
    refine exists_mapM_eq_ok fun item hitem => ?_
    have hw : item.1 ∈ items := List.mem_of_getElem? (List.mem_zipIdx_iff_getElem?.1 hitem)
    obtain ⟨r, hr, -⟩ := hchild c hc item.1 hw (path ++ [.int item.2])
    exact ⟨r, hr⟩

/-- **An array in which nothing is found is cast**, with the same data, if its items are by the node
for them. -/
lemma castArray_conforming {items : List Value} (hitems : v.items? = some items)
    (hcheck : checkArray check s v path = .ok [])
    (hchild : ∀ c, s.items = some c → ∀ w ∈ items, CastsSame child c w active) :
    ∃ r, (castArray child s v path active).outcome = .ok r ∧ v.SameData r := by
  obtain ⟨-, hfew, hmany, hunique⟩ := checkArray_eq_ok_nil hitems hcheck
  obtain ⟨result, hresult⟩ : ∃ result,
    (castItems child s items path active).outcome = .ok result := exists_castItems hchild
  obtain ⟨hlength, hall⟩ := castItems_related (R := Value.SameData) .same
    (fun w hw c hc p r hr => (hchild c hc w hw).sameData hr) hresult
  rw [hlength] at hfew hmany
  have hdistinct : checkUnique s result path = [] := by
    rw [Conformance.checkUnique_eq_nil] at hunique ⊢
    rwa [← Conformance.areDistinct_sameData (List.forall₂_iff_zip.2 ⟨hlength, fun h => hall _ h⟩)]
  exact ⟨.list result, castArray_outcome_ok.2
    ⟨items, result, hitems, hresult, hfew, hmany, hdistinct, rfl⟩, .array hitems rfl hlength hall⟩

/-! ## Scalars -/

/-- A value of the right type is converted to itself, or to the whole number that it is. -/
lemma castScalar_conforming (hformat : s.format = .null)
    (htype : Conformance.meetsType s v = true) (path : Path) :
    castScalar s v path = pure v ∨
      ∃ x n, v = .float x ∧ x.toInt? = some n ∧ castScalar s v path = pure (.int n) := by
  have hasks : asksForDates s = false := by
    unfold asksForDates
    rw [hformat]
    split <;> first | rfl | simp_all
  have htemporal : isTemporal s.format v = false := by rw [hformat]; rfl
  rw [← Conformance.hasType_eq_meetsType] at htype
  rw [castScalar_eq_castTyped hasks]
  rcases ConvertsByType.of_hasType htype htemporal with hkept | ⟨x, n, hx, hn, hwhole⟩
  · exact .inl (hkept.castTyped_eq path)
  · exact .inr ⟨x, n, hx, hn, hwhole.castTyped_eq path⟩

/-! ## Schemas and nodes -/

/-- **By the shape of a schema that only describes values, plain data in which nothing is found is
cast**, with the same data, if its parts are by the nodes that apply to them. -/
lemma castOwn_conforming (hs : s.OnlyDescribes) (hv : v.IsPlain)
    (hcheck : checkKeywords check s v path = .ok [])
    (hchild : ∀ c ∈ s.partNodes, ∀ w q, w.IsPlain → check c w q = .ok [] →
      CastsSame child c w active) :
    ∃ r, (castOwn child s v path active).outcome = .ok r ∧ v.SameData r := by
  obtain ⟨htype, henum, hscalar, hobject, harray⟩ := checkKeywords_eq_ok_nil hcheck
  have hmeets := Conformance.checkType_eq_nil.1 htype
  cases hcasts : castsObject s v with
  | true =>
    obtain ⟨data, rfl, hdata, hall⟩ := hv.of_isObject (isObject_of_castsObject hcasts hmeets)
    obtain ⟨r, hr, hsame⟩ := castObject_conforming hs hdata hobject fun name w c hw hc => by
      obtain ⟨q, hq⟩ := exists_checked_property hobject hw hc
      exact hchild c (Keywords.mem_partNodes_property hc) w q (hall _ (Entries.mem_of_get? hw)) hq
    exact ⟨r, castOwn_outcome_ok.2 (.inl ⟨hcasts, hr⟩), hsame⟩
  | false =>
    cases hcasts' : castsArray s v with
    | true =>
      obtain ⟨items, hitems⟩ := Option.isSome_iff_exists.1 (isArray_of_castsArray hcasts' hmeets)
      obtain ⟨r, hr, hsame⟩ := castArray_conforming hitems harray fun c hc w hw => by
        obtain ⟨q, hq⟩ := exists_checked_item (checkArray_eq_ok_nil hitems harray).1 hc hw
        exact hchild c (Keywords.mem_partNodes_items hc) w q (hv.item hitems hw) hq
      exact ⟨r, castOwn_outcome_ok.2 (.inr (.inl ⟨hcasts, hcasts', hr⟩)), hsame⟩
    | false =>
      obtain ⟨r, hr, hsame, hscalar'⟩ : ∃ r, (castScalar s v path).outcome = .ok r ∧
          v.SameData r ∧ checkScalar s r path = .ok [] := by
        rcases castScalar_conforming hs.format hmeets path with hcast | ⟨x, n, rfl, hn, hcast⟩
        · exact ⟨v, by rw [hcast, Traced.outcome_pure], .same v, hscalar⟩
        · exact ⟨.int n, by rw [hcast, Traced.outcome_pure],
            .number rfl rfl (Value.extent?_whole hn),
            checkScalar_whole hn hs.format hs.multipleOf hscalar⟩
      have henum' : checkEnum s r path = [] := by
        rw [Conformance.checkEnum_eq_nil] at henum ⊢
        unfold Conformance.meetsEnum at henum ⊢
        simpa only [← funext hsame.jsonEqual_left] using henum
      exact ⟨r, castOwn_outcome_ok.2 (.inr (.inr ⟨hcasts, hcasts', hr, henum', hscalar'⟩)), hsame⟩

/-- A schema that only describes values casts plain data in which nothing is found, with the same
data, if its parts are cast so by the nodes that apply to them. -/
lemma castSchema_conforming (hs : s.OnlyDescribes) (hv : v.IsPlain)
    (hcheck : checkSchema check s v path = .ok [])
    (hchild : ∀ c ∈ s.partNodes, ∀ w q, w.IsPlain → check c w q = .ok [] →
      CastsSame child c w active) :
    ∃ r, (castSchema context child check s v path active).outcome = .ok r ∧ v.SameData r := by
  unfold checkSchema at hcheck
  cases hnull : v.isNull && s.nullable.isTruthy with
  | true =>
    refine ⟨.null, (castSchema_outcome_ok hs.discriminator).2 (.inl ⟨hnull, rfl⟩), ?_⟩
    cases v <;> first | exact .same _ | cases hnull
  | false =>
    rw [hnull, if_neg Bool.false_ne_true] at hcheck
    cases htyped : v.isNull && s.type.isSome with
    | true =>
      rw [htyped, if_pos rfl] at hcheck
      cases hcheck
    | false =>
      rw [htyped, if_neg Bool.false_ne_true] at hcheck
      obtain ⟨r, hr, hsame⟩ := castOwn_conforming hs hv hcheck hchild
      have hmatch : checkNot check s r path = .ok [] := by rw [checkNot, hs.notSchema]
      have hcast : (castComposed context child check s v path active).outcome = .ok r :=
        (castComposed_plain hs.plain hs.targetType).2 ⟨hr, refuseMatch_outcome_ok.2 hmatch⟩
      exact ⟨r, (castSchema_outcome_ok hs.discriminator).2 (.inr ⟨hnull, htyped, hcast⟩), hsame⟩

/-- **Plain data in which a node finds nothing is cast by it, with the same data**, if all schemas
that it leads to only describe values.

**Proof sketch.** Induction on the depth. The node stands for a schema, with less depth left, and
the parts of the value are cast by the nodes below, which find nothing in them at any place. -/
theorem castNode_conforming {depth : Nat} {node : Node}
    (hs : ∀ s, context.registry.Reaches Keywords.partNodes node s → s.OnlyDescribes)
    (hv : v.IsPlain) (h : checkNode context.registry context.limit depth node v path = .ok []) :
    ∃ r, (castNode context depth node v path active).outcome = .ok r ∧ v.SameData r := by
  induction depth using Nat.strongRecOn generalizing node v path active with
  | ind depth ih =>
    obtain ⟨hkinds, -⟩ | ⟨s, left, hresolves, hleft, hcheck, opened, heq⟩ :=
      resolved_of_checkNode active h
    · cases hkinds
    have hbelow : ∀ t, context.registry.Reaches Keywords.partNodes (.schema s) t →
        t.OnlyDescribes := fun t ht => hs t (hresolves.reaches ht)
    rw [heq]
    refine castSchema_conforming (hbelow s (.here s)) hv hcheck fun c hc w q hw hq path => ?_
    exact ih left hleft (fun t ht => hbelow t (.child hc ht)) hw (checkNode_elsewhere hq path)

end Casting

/-! ## Whole values -/

/-- **Casts leave conforming data alone**: if all schemas that a node leads to only describe values,
plain data in which validation finds nothing is cast, to a value that it equals as JSON. -/
theorem jsonEqual_of_validate {context : CastContext} {node : Node} {v : Value}
    (hs : ∀ s, context.registry.Reaches Keywords.partNodes node s → s.OnlyDescribes)
    (hv : v.IsPlain) (h : validate context.registry node v context.limit = .ok []) :
    ∃ r, (cast context node v).outcome = .ok (.ok r) ∧ v.jsonEqual r = true := by
  obtain ⟨r, hr, hsame⟩ := Casting.castNode_conforming hs hv h
  exact ⟨r, cast_outcome_ok.2 hr, hsame.jsonEqual hv.jsonEqual_self⟩

/-- The ends of a leg: at least two numbers, all different. -/
def ends : Schema where
  type := some .array
  items := some (.schema { type := some .number })
  minItems := .int 2
  uniqueItems := .bool true

/-- A leg of a journey: its day and its ends, and notes under any other names. -/
def leg : Schema where
  properties := some [("day", .schema { type := some .integer }), ("ends", .ref "Ends")]
  required := [.str "ends"]
  additional := .flag true

/-- Legs and their ends. -/
def journeys : Registry := ⟨[("Leg", .schema leg), ("Ends", .schema ends)]⟩

/-- The schemas of legs only describe values. -/
lemma leg_onlyDescribes (s : Schema)
    (h : journeys.Reaches Keywords.partNodes (.ref "Leg") s) : s.OnlyDescribes := by
  have hmem : Node.schema s ∈ [.ref "Leg", .ref "Ends", .schema leg, .schema ends,
      .schema { type := some .integer }, .schema { type := some .number }] := by
    refine h.of_closed (Q := fun node => node ∈ [.ref "Leg", .ref "Ends", .schema leg,
      .schema ends, .schema { type := some .integer }, .schema { type := some .number }]) ?_ ?_
      List.mem_cons_self
    · simp only [List.mem_cons, List.not_mem_nil, reduceCtorEq, Node.ref.injEq, or_false]
      rintro name target (rfl | rfl) hget
      · obtain rfl := Option.some.inj hget
        exact .inr (.inr (.inl rfl))
      · obtain rfl := Option.some.inj hget
        exact .inr (.inr (.inr (.inl rfl)))
    · simp only [List.mem_cons, List.not_mem_nil, reduceCtorEq, Node.schema.injEq, or_false,
        false_or]
      rintro t c (rfl | rfl | rfl | rfl) hc
      · have hparts : c ∈ [.schema { type := some .integer }, .ref "Ends"] := hc
        simp only [List.mem_cons, List.not_mem_nil, or_false] at hparts
        rcases hparts with rfl | rfl <;> simp
      · obtain rfl := List.mem_singleton.1 hc
        simp
      · cases hc
      · cases hc
  simp only [List.mem_cons, List.not_mem_nil, reduceCtorEq, Node.schema.injEq, or_false,
    false_or] at hmem
  rcases hmem with rfl | rfl | rfl | rfl
  · exact ⟨⟨rfl, rfl, by decide⟩, rfl, rfl, rfl, rfl, fun _ => nofun⟩
  all_goals exact ⟨⟨rfl, rfl, .nil⟩, rfl, rfl, rfl, rfl, nofun⟩

/-- A leg with the day as a double, the ends as a tuple, and a note before both. -/
def firstLeg : Value :=
  .mapping [(.str "note", .str "by sea"), (.str "ends", .tuple [.int 0, .int 12]),
    (.str "day", .float (.ofInt 3))]

/-- A leg is cast to an equal one, in which the day is a whole number. -/
theorem leg_untouched :
    (∀ s, journeys.Reaches Keywords.partNodes (.ref "Leg") s → s.OnlyDescribes) ∧
    firstLeg.IsPlain ∧ validate journeys (.ref "Leg") firstLeg 6 = .ok [] ∧
    ∃ r, (cast ⟨journeys, .generic, 6⟩ (.ref "Leg") firstLeg).outcome = .ok (.ok r) ∧
      firstLeg.jsonEqual r = true := by
  have hplain : firstLeg.IsPlain := by
    refine .mapping ⟨by simp, by simp⟩ ?_
    simp only [List.forall_mem_cons]
    refine ⟨.str _, .array rfl ?_, .float (by decide +kernel), nofun⟩
    simp only [List.forall_mem_cons]
    exact ⟨.int 0, .int 12, nofun⟩
  have hcheck : validate journeys (.ref "Leg") firstLeg 6 = .ok [] :=
    eq_ok_nil_of_isEmpty (by decide +kernel)
  exact ⟨leg_onlyDescribes, hplain, hcheck, jsonEqual_of_validate leg_onlyDescribes hplain hcheck⟩

end DataSchema
