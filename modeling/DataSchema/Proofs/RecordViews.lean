import DataSchema.Proofs.Aliases

set_option autoImplicit false

/-!
# Records seen as mappings

A record without null fields is checked like the mapping of its fields. Checks see the same entries
in both, and neither is a scalar or an array; only the messages about a wrong type tell them apart,
which name the kind of a value. An enumeration tells them apart too, so that there must be none for
the value itself; what is asked of the values of fields does not matter.

## Main definitions

* `DataSchema.findings` — what a check finds, messages apart.
* `DataSchema.Value.ofFields` — the mapping of the fields of a record.

## Main results

* `DataSchema.Validation.checkSchema_record` — records and mappings checked against a schema.
* `DataSchema.Validation.checkNode_record` — records and mappings checked against nodes, at every
  depth.
* `DataSchema.validate_record` — records and mappings as whole values.
-/

namespace DataSchema

/-- The mapping of the fields of a record, in order. -/
def Value.ofFields (fields : List (String × Value)) : Value :=
  .mapping (fields.map fun f => (.str f.1, f.2))

/-! ## Findings -/

/-- What a check finds, messages apart: the kinds of issues and their locations, in order. -/
def findings (x : Check) : Except Fault (List (IssueKind × Path)) :=
  x.map (List.map fun i => (i.kind, i.path))

/-- A check escapes as what it finds does. -/
lemma escapes_findings (x : Check) : escapes (findings x) = escapes x := by
  cases x <;> rfl

section

variable {x y : Check}

/-- Checks with the same findings find nothing alike. -/
lemma isEmpty_congr (h : findings x = findings y) : x.map List.isEmpty = y.map List.isEmpty := by
  have hempty : ∀ z : Check, z.map List.isEmpty = (findings z).map List.isEmpty := by
    rintro (f | is)
    · rfl
    · exact congrArg Except.ok List.isEmpty_map.symm
  rw [hempty, hempty, h]

/-- Checks with the same findings, followed by checks that go on from there alike. -/
lemma findings_bind {f g : List Issue → Check} (h : findings x = findings y)
    (hfg : ∀ is js, findings (.ok is) = findings (.ok js) → findings (f is) = findings (g js)) :
    findings (x >>= f) = findings (y >>= g) := by
  cases x with
  | error e =>
    cases y with
    | error e' =>
      obtain rfl : e = e' := Except.error.inj h
      rfl
    | ok js => cases h
  | ok is =>
    cases y with
    | error e' => cases h
    | ok js => exact hfg is js h

/-- The same steps followed by checks with the same findings. -/
lemma findings_bind_same {α : Type} {u : Except Fault α} {f g : α → Check}
    (h : ∀ a, findings (f a) = findings (g a)) : findings (u >>= f) = findings (u >>= g) := by
  cases u with
  | error e => rfl
  | ok a => exact h a

/-- The same findings in a row. -/
lemma findings_append {is js is' js' : List Issue} (h : findings (.ok is) = findings (.ok js))
    (h' : findings (.ok is') = findings (.ok js')) :
    findings (.ok (is ++ is')) = findings (.ok (js ++ js')) := by
  have hfirst := Except.ok.inj h
  have hsecond := Except.ok.inj h'
  refine congrArg Except.ok ?_
  rw [List.map_append, List.map_append, hfirst, hsecond]

/-- The same findings with each of several things are the same findings in all. -/
lemma findings_gather {α : Type} {xs : List α} {f g : α → Check}
    (h : ∀ a ∈ xs, findings (f a) = findings (g a)) :
    findings (Validation.gather xs f) = findings (Validation.gather xs g) := by
  induction xs with
  | nil => rfl
  | cons a xs ih =>
    rw [Validation.gather_cons, Validation.gather_cons]
    refine findings_bind (h a List.mem_cons_self) fun is js hfirst => ?_
    refine findings_bind (ih fun b hb => h b (List.mem_cons_of_mem a hb)) fun is' js' hothers => ?_
    exact findings_append hfirst hothers

end

namespace Validation

variable {child : NodeChecker} {s : Schema} {path : Path}

/-! ## Composition -/

section

variable {v w : Value}

/-- The same findings with a composition, if there are the same findings with its nodes. -/
lemma findings_checkComposition
    (h : ∀ c ∈ s.sameNodes, findings (child c v path) = findings (child c w path)) :
    findings (checkComposition child s v path) = findings (checkComposition child s w path) := by
  have hconforms : ∀ c ∈ s.sameNodes, conforms child c v path = conforms child c w path :=
    fun c hc => isEmpty_congr (h c hc)
  have hany : checkAnyOf child s v path = checkAnyOf child s w path := by
    rw [checkAnyOf, checkAnyOf,
      conformsToAny_congr fun c hc => hconforms c (Keywords.mem_sameNodes_anyOf hc)]
  have hone : checkOneOf child s v path = checkOneOf child s w path := by
    rw [checkOneOf, checkOneOf,
      conformingCount_congr fun c hc => hconforms c (Keywords.mem_sameNodes_oneOf hc)]
  have hnot : checkNot child s v path = checkNot child s w path := by
    unfold checkNot
    split
    next => rfl
    next node hnode => rw [hconforms node (Keywords.mem_sameNodes_not hnode)]
  unfold checkComposition
  rw [hany, hone, hnot]
  refine findings_bind (findings_gather fun c hc => h c (Keywords.mem_sameNodes_allOf hc))
    fun is js hmembers => ?_
  refine findings_bind_same fun any => findings_bind_same fun one => findings_bind_same fun no => ?_
  exact findings_append (findings_append (findings_append hmembers rfl) rfl) rfl

end

/-! ## Records and mappings -/

section

variable {type : String} {fields : List (String × Value)}

/-- Formats say nothing of records or of mappings. -/
lemma checkFormat_record (format : Value) :
    checkFormat (.record type fields) format = checkFormat (.ofFields fields) format := by
  have hknown : ∀ name known, checkKnown name known (.record type fields) =
      checkKnown name known (.ofFields fields) := by
    intro name known
    cases known <;> rfl
  unfold checkFormat
  simp only [hknown]

/-- A record is of the wrong type where a mapping is. -/
lemma findings_checkType_record :
    findings (.ok (checkType s (.record type fields) path)) =
      findings (.ok (checkType s (.ofFields fields) path)) := by
  have htype : hasType s (.record type fields) = hasType s (.ofFields fields) := by
    unfold hasType
    cases s.type with
    | none => rfl
    | some t => cases t <;> simp [Value.ofFields, isTemporal, Value.str?, Value.isInteger,
        Value.isNumber, Value.number?, Value.isObject, Value.isArray, Value.items?]
  -- the messages differ, which name the type of the record or say that the value is an object
  unfold checkType
  rw [htype]
  cases hasType s (.ofFields fields) <;> rfl

/-- Keywords for scalars see no difference between a record and a mapping. -/
lemma checkScalar_record :
    checkScalar s (.record type fields) path = checkScalar s (.ofFields fields) path := by
  rw [checkScalar_eq, checkScalar_eq, checkFormatKeyword_eq, checkFormatKeyword_eq,
    checkFormat_record]
  rfl

variable (hfields : ∀ f ∈ fields, f.2.isNull = false)

include hfields

/-- Keywords for objects see the same entries in a record without null fields and in the mapping of
its fields, whichever names are required. -/
lemma checkObject_record :
    checkObject child s (.record type fields) path = checkObject child s (.ofFields fields) path := by
  have hview : (Value.record type fields).objectView? s.required =
      (Value.ofFields fields).objectView? s.required := by
    have hall : ∀ f ∈ fields,
        (!f.2.isNull || s.required.any (·.equal (.str f.1))) = true := fun f hf => by
      rw [hfields f hf]
      rfl
    simp only [Value.objectView?, Value.ofFields, List.filter_eq_self.2 hall]
  unfold checkObject
  rw [hview]

/-- **The same findings with a schema** without an enumeration, if there are the same findings with
the nodes for the value itself. -/
lemma checkSchema_record (henum : s.enum = none)
    (h : ∀ c ∈ s.sameNodes,
      findings (child c (.record type fields) path) = findings (child c (.ofFields fields) path)) :
    findings (checkSchema child s (.record type fields) path) =
      findings (checkSchema child s (.ofFields fields) path) := by
  have hnone : ∀ v, checkEnum s v path = [] := fun v => by rw [checkEnum, henum]
  have hkeywords : findings (checkKeywords child s (.record type fields) path) =
      findings (checkKeywords child s (.ofFields fields) path) := by
    unfold checkKeywords
    rw [checkScalar_record, checkObject_record hfields, hnone, hnone]
    refine findings_bind_same fun scalar => findings_bind_same fun object => ?_
    refine findings_bind_same fun array => ?_
    refine findings_bind (findings_checkComposition h) fun is js hcomposition => ?_
    have htype : findings (.ok (checkType s (.record type fields) path)) =
        findings (.ok (checkType s (.ofFields fields) path)) := findings_checkType_record
    refine findings_append ?_ hcomposition
    exact findings_append (findings_append (findings_append (findings_append htype rfl) rfl) rfl) rfl
  exact hkeywords

/-- **The same findings with a node** at every depth, if none of the schemas for the value itself
has an enumeration.

**Proof sketch.** Induction on the depth. Properties are checked in the same values, and what is
composed hands the record and the mapping on as they are. -/
theorem checkNode_record (registry : Registry) (limit : Int) (depth : Nat) {node : Node}
    (hs : ∀ s, registry.Reaches Keywords.sameNodes node s → s.enum = none) (path : Path) :
    findings (checkNode registry limit depth node (.record type fields) path) =
      findings (checkNode registry limit depth node (.ofFields fields) path) := by
  induction depth, node using registry.node_induction with
  | zero node => rfl
  | unknown depth name hget => rw [checkNode_unknown hget, checkNode_unknown hget]
  | named depth name s hget ih =>
    rw [checkNode_named hget, checkNode_named hget]
    exact ih fun t ht => hs t (.ref hget ht)
  | link depth name other hget ih =>
    rw [checkNode_link hget, checkNode_link hget]
    exact ih fun t ht => hs t (.ref hget ht)
  | schema depth s ih =>
    refine checkSchema_record hfields (hs s (.here s)) fun c hc => ?_
    exact ih c fun t ht => hs t (.child hc ht)

end

end Validation

/-! ## Whole values -/

/-- **A record is checked like the mapping of its fields**, if none of its fields is null and none of
the schemas for the value itself has an enumeration: both checks stop for the same reason, or they
find issues of the same kinds at the same locations in the same order. So they come to the same
verdict, messages apart, exactly where the check of the mapping stops, if at all, at the depth
guard. -/
theorem validate_record {fields : List (String × Value)} (hfields : ∀ f ∈ fields, f.2.isNull = false)
    {registry : Registry} {node : Node}
    (hs : ∀ s, registry.Reaches Keywords.sameNodes node s → s.enum = none) (type : String)
    (limit : Int) :
    findings (validate registry node (.record type fields) limit) =
        findings (validate registry node (.ofFields fields) limit) ∧
      (SameVerdict (findings (validate registry node (.record type fields) limit))
          (findings (validate registry node (.ofFields fields) limit)) ↔
        escapes (validate registry node (.ofFields fields) limit) = false) := by
  have hsame : findings (validate registry node (.record type fields) limit) =
      findings (validate registry node (.ofFields fields) limit) :=
    Validation.checkNode_record hfields registry limit limit.toNat hs []
  refine ⟨hsame, ?_⟩
  rw [hsame, sameVerdict_self, escapes_findings]

/-- A point in the plane, or else a list. -/
def pointOrList : Schema where
  type := some .array
  properties := some [("x", .schema { type := some .integer }), ("y", .schema { minimum := .int 0 })]
  anyOf := some [.schema { required := [.str "z"] }, .schema { maxProperties := .int 1 }]

/-- A point is no list, one of its coordinates is not a whole number and the other is negative, and it
is none of the alternatives: of the record all this is found as of the mapping. -/
theorem point_checked :
    SameVerdict
      (findings (validate ⟨[]⟩ (.schema pointOrList)
        (.record "Point" [("x", .str "1"), ("y", .int (-2))]) 64))
      (findings (validate ⟨[]⟩ (.schema pointOrList)
        (.ofFields [("x", .str "1"), ("y", .int (-2))]) 64)) ∧
    ∃ is, validate ⟨[]⟩ (.schema pointOrList)
        (.ofFields [("x", .str "1"), ("y", .int (-2))]) 64 = .ok is ∧
      is.map Issue.kind = [.wrongType, .wrongType, .constraintViolation, .noneMatched] := by
  have hfields : ∀ f ∈ [("x", Value.str "1"), ("y", .int (-2))], f.2.isNull = false := by
    simp [Value.isNull]
  have henum : ∀ s, (⟨[]⟩ : Registry).Reaches Keywords.sameNodes (.schema pointOrList) s →
      s.enum = none := by
    intro s h
    cases h with
    | here => rfl
    | child hc h =>
      rcases List.mem_pair.1 hc with rfl | rfl
      all_goals
        cases h with
        | here => rfl
        | child hc => cases hc
  have hsame := validate_record hfields henum "Point" 64
  exact ⟨hsame.2.2 (by decide +kernel), exists_ok_of_kinds (by decide +kernel)⟩

/-- Something that takes place at a time. -/
def meeting : Schema where
  properties := some [("at", .schema { type := some .string, format := .str "date-time" })]

/-- A timestamp in a field stops the check of the record and that of the mapping: there is no verdict
on either, and it is not the depth guard that stops them. -/
theorem meeting_escapes :
    (∀ f ∈ [("at", Value.str "0001-01-01T00:00:00+01:00")], f.2.isNull = false) ∧
    (∀ s, (⟨[]⟩ : Registry).Reaches Keywords.sameNodes (.schema meeting) s → s.enum = none) ∧
    ¬SameVerdict
      (findings (validate ⟨[]⟩ (.schema meeting)
        (.record "Meeting" [("at", .str "0001-01-01T00:00:00+01:00")]) 64))
      (findings (validate ⟨[]⟩ (.schema meeting)
        (.ofFields [("at", .str "0001-01-01T00:00:00+01:00")]) 64)) := by
  refine ⟨by simp [Value.isNull], fun s h => ?_, fun hsame => ?_⟩
  · cases h with
    | here => rfl
    | child hc => cases hc
  · have hescapes : escapes (findings (validate ⟨[]⟩ (.schema meeting)
        (.ofFields [("at", .str "0001-01-01T00:00:00+01:00")]) 64)) = true := by decide +kernel
    rw [hsame.escapes_eq_false] at hescapes
    cases hescapes

end DataSchema
