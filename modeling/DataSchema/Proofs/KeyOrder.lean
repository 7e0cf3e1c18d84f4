import DataSchema.Proofs.Agreement
import DataSchema.Proofs.CastRelations
import DataSchema.Proofs.SameData

set_option autoImplicit false

/-!
# Properties in another order

Two values differ only in the order of properties if they become the same once the entries of the
mappings in them are put in order, at any depth. Checking them goes through undeclared properties
in another order, and it shows the values in messages as they are; but it finds issues of the same
kinds at the same places.

## Main definitions

* `DataSchema.Value.Reordered` — values that differ only in the order of properties.
* `DataSchema.SameFindings` — issues of the same kinds at the same places, up to the order.

## Main results

* `DataSchema.Entries.Reordered.permuted` — such entries are the same one by one, in some order.
* `DataSchema.Value.Reordered.sameData` — such values have the same data.
* `DataSchema.Validation.checkSchema_reordered` — the same findings of a schema, given those of its
  child nodes.
* `DataSchema.Validation.checkNode_reordered` — the same findings of a node, at every depth.
-/

namespace DataSchema

/-! ## Values but for the order of properties -/

/-- Two values differ only in the order of properties, at any depth: a scalar is the same, arrays
are of one kind and their items differ so, and objects have the same names with properties that
differ so. There are no records among them. -/
inductive Value.Reordered : Value → Value → Prop
  /-- A scalar is the same. -/
  | scalar {v : Value} : v.isScalar = true → Reordered v v
  /-- Lists are the same item by item. -/
  | list {vs ws : List Value} : vs.length = ws.length → (∀ p ∈ vs.zip ws, Reordered p.1 p.2) →
    Reordered (.list vs) (.list ws)
  /-- Tuples are the same item by item. -/
  | tuple {vs ws : List Value} : vs.length = ws.length → (∀ p ∈ vs.zip ws, Reordered p.1 p.2) →
    Reordered (.tuple vs) (.tuple ws)
  /-- Mappings are the same name by name. -/
  | mapping {es fs : Entries} : es.Named → fs.Named →
    (∀ name, (es.get? (.str name)).isSome = (fs.get? (.str name)).isSome) →
    (∀ name v w, es.get? (.str name) = some v → fs.get? (.str name) = some w → Reordered v w) →
    Reordered (.mapping es) (.mapping fs)

/-- The entries of two mappings differ only in their order, and in the order of properties in
them. -/
structure Entries.Reordered (es fs : Entries) : Prop where
  /-- The first entries have names. -/
  left : es.Named
  /-- The second entries have names. -/
  right : fs.Named
  /-- The names are the same. -/
  isSome_eq : ∀ name, (es.get? (.str name)).isSome = (fs.get? (.str name)).isSome
  /-- The properties of a name differ only in the order of properties. -/
  property : ∀ name v w, es.get? (.str name) = some v → fs.get? (.str name) = some w →
    v.Reordered w

/-- Two entries have one key, and values that differ only in the order of properties. -/
def Entries.SameEntry (e f : Value × Value) : Prop := e.1 = f.1 ∧ e.2.Reordered f.2

namespace Entries.Reordered

variable {es fs es' fs' : Entries} {name : String}

/-- Under one name there is nothing in both, or there are values that differ only in the order of
properties. -/
lemma get? (h : es.Reordered fs) (name : String) :
    Option.Rel Value.Reordered (es.get? (.str name)) (fs.get? (.str name)) := by
  have hboth := h.isSome_eq name
  cases hv : es.get? (.str name) <;> cases hw : fs.get? (.str name) <;> rw [hv, hw] at hboth
  · exact .none
  · cases hboth
  · cases hboth
  · exact .some (h.property name _ _ hv hw)

/-- Entries differ only in their order if look-ups of names do. -/
lemma of_get? (hes : es.Named) (hfs : fs.Named)
    (h : ∀ name, Option.Rel Value.Reordered (es.get? (.str name)) (fs.get? (.str name))) :
    es.Reordered fs where
  left := hes
  right := hfs
  isSome_eq name := by
    match es.get? (.str name), fs.get? (.str name), h name with
    | _, _, .none => rfl
    | _, _, .some _ => rfl
  property name v w hv hw := by
    have hvw := h name
    rw [hv, hw] at hvw
    cases hvw with
    | some hvw => exact hvw

/-- No entries are the same as no entries. -/
lemma nil : Entries.Reordered [] [] := .of_get? .nil .nil fun _ => .none

/-- Which keys are present is the same. -/
lemma has (h : es.Reordered fs) (k : Value) : es.has k = fs.has k :=
  h.left.has_eq h.right h.isSome_eq k

/-- **The entries are the same one by one, in some order.** -/
lemma permuted (h : es.Reordered fs) : Permuted SameEntry es fs := by
  have hentries : (es.map Prod.fst).map (fun k => (k, (es.get? k).getD .null)) = es := by
    rw [List.map_map]
    conv_rhs => rw [← List.map_id es]
    exact List.map_congr_left fun e he => by simp [h.left.get?_of_mem he]
  have hperm : es.Perm ((fs.map Prod.fst).map fun k => (k, (es.get? k).getD .null)) := by
    conv_lhs => rw [← hentries]
    exact (h.left.keys_perm h.right h.isSome_eq).map _
  refine .of_perm hperm ?_
  rw [List.map_map, List.forall₂_map_left_iff, List.forall₂_same]
  intro f hf
  obtain ⟨name, hname⟩ := h.right.text f hf
  have hw := h.right.get?_of_mem hf
  rw [hname] at hw
  obtain ⟨v, hv⟩ := Option.isSome_iff_exists.1 ((h.isSome_eq name).trans (by rw [hw]; rfl))
  refine ⟨rfl, ?_⟩
  simpa [hname, hv] using h.property name v f.2 hv hw

/-- Entries with names that are the same one by one, in some order, differ only in that order. -/
lemma of_permuted (hes : es.Named) (hfs : fs.Named) (h : Permuted SameEntry es fs) :
    es.Reordered fs := by
  have hright : ∀ {v : Value} {name}, es.get? (.str name) = some v →
      ∃ w, fs.get? (.str name) = some w ∧ v.Reordered w := by
    intro v name hv
    obtain ⟨f, hf, hkey, hvw⟩ := h.exists_right (Entries.mem_of_get? hv)
    have hw := hfs.get?_of_mem hf
    rw [← hkey] at hw
    exact ⟨f.2, hw, hvw⟩
  refine .of_get? hes hfs fun name => ?_
  cases hv : es.get? (.str name) with
  | some v =>
    obtain ⟨w, hw, hvw⟩ := hright hv
    rw [hw]
    exact .some hvw
  | none =>
    cases hw : fs.get? (.str name) with
    | none => exact .none
    | some w =>
      obtain ⟨e, he, hkey, -⟩ := h.exists_left (Entries.mem_of_get? hw)
      have hget := hes.get?_of_mem he
      rw [hkey] at hget
      rw [hget] at hv
      cases hv

/-- Entries that are put over others differ only in their order if they and the others do. -/
lemma merge (h : es.Reordered fs) (h' : es'.Reordered fs') :
    (Entries.merge es es').Reordered (Entries.merge fs fs') := by
  refine .of_get? (h.left.merge h'.left) (h.right.merge h'.right) fun name => ?_
  rw [h'.left.get?_merge, h'.right.get?_merge]
  match es'.get? (.str name), fs'.get? (.str name), h'.get? name with
  | _, _, .none => exact h.get? name
  | _, _, .some hvw => exact .some hvw

end Entries.Reordered

namespace Value.Reordered

variable {v w : Value} {es fs : Entries}

/-- Mappings differ only in the order of properties if their entries do. -/
lemma of_entries (h : es.Reordered fs) : (Value.mapping es).Reordered (.mapping fs) :=
  .mapping h.left h.right h.isSome_eq h.property

/-- The entries of mappings that differ only in the order of properties do. -/
lemma entries_mapping (h : (Value.mapping es).Reordered (.mapping fs)) : es.Reordered fs := by
  cases h with
  | scalar hscalar => cases hscalar
  | mapping hes hfs hsame hall => exact ⟨hes, hfs, hsame, hall⟩

/-- A mapping differs only in the order of properties from one whose entries are put in another
order. -/
lemma of_perm (hes : es.Named) (hperm : es.Perm fs) (hall : ∀ e ∈ es, e.2.Reordered e.2) :
    (Value.mapping es).Reordered (.mapping fs) := by
  have hfs : fs.Named :=
    ⟨fun e he => hes.text e (hperm.mem_iff.2 he), (hperm.map Prod.fst).nodup_iff.1 hes.nodup⟩
  refine .of_entries (.of_permuted hes hfs (.of_forall₂_perm ?_ hperm))
  exact List.forall₂_same.2 fun e he => ⟨rfl, hall e he⟩

/-- Values that differ only in the order of properties have the same data. -/
lemma sameData (h : v.Reordered w) : v.SameData w := by
  induction h with
  | scalar _ => exact .same _
  | list hlength _ ih => exact .array rfl rfl hlength ih
  | tuple hlength _ ih => exact .array rfl rfl hlength ih
  | mapping hes hfs hsame _ ih => exact .mapping hes hfs hsame ih

/-- The items of arrays differ one by one. -/
lemma items? (h : v.Reordered w) :
    Option.Rel (List.Forall₂ Value.Reordered) v.items? w.items? := by
  cases h with
  | scalar hscalar =>
    rw [Value.items?_of_isScalar hscalar]
    exact .none
  | list hlength hall => exact .some (List.forall₂_iff_zip.2 ⟨hlength, fun hp => hall _ hp⟩)
  | tuple hlength hall => exact .some (List.forall₂_iff_zip.2 ⟨hlength, fun hp => hall _ hp⟩)
  | mapping _ _ _ _ => exact .none

/-- The entries of objects differ only in their order. -/
lemma objectView? (h : v.Reordered w) (required : List Value) :
    Option.Rel Entries.Reordered (v.objectView? required) (w.objectView? required) := by
  cases h with
  | scalar hscalar =>
    rw [Value.objectView?_of_isScalar hscalar]
    exact .none
  | list _ _ => exact .none
  | tuple _ _ => exact .none
  | mapping hes hfs hsame hall => exact .some ⟨hes, hfs, hsame, hall⟩

/-- The entries of values differ only in their order; what is no object has none. -/
lemma entries (h : v.Reordered w) : v.entries.Reordered w.entries := by
  unfold Value.entries
  match v.objectView? [], w.objectView? [], h.objectView? [] with
  | _, _, .none => exact .nil
  | _, _, .some hes => exact hes

/-- Both values are null or neither. -/
lemma isNull_eq (h : v.Reordered w) : v.isNull = w.isNull := by
  cases h <;> rfl

/-- Both values are objects or neither. -/
lemma isObject_eq (h : v.Reordered w) : v.isObject = w.isObject := by
  cases h <;> rfl

/-- Both values are arrays or neither. -/
lemma isArray_eq (h : v.Reordered w) : v.isArray = w.isArray := by
  cases h <;> rfl

/-- The values are of one kind. -/
lemma kindName_eq (h : v.Reordered w) : v.kindName = w.kindName := by
  cases h <;> rfl

end Value.Reordered

/-! ## Findings -/

/-- Issues of the same kinds at the same places, each as often, in whatever order. -/
def SameFindings (is js : List Issue) : Prop :=
  (is.map fun i => (i.kind, i.path)).Perm (js.map fun i => (i.kind, i.path))

namespace SameFindings

variable {is js is' js' : List Issue}

/-- Issues are the same findings as themselves. -/
lemma refl (is : List Issue) : SameFindings is is := List.Perm.refl _

/-- Findings in a row are the same if the parts are. -/
lemma append (h : SameFindings is js) (h' : SameFindings is' js') :
    SameFindings (is ++ is') (js ++ js') := by
  unfold SameFindings
  rw [List.map_append, List.map_append]
  exact List.Perm.append h h'

/-- There are no findings if there are no findings. -/
lemma isEmpty_eq (h : SameFindings is js) : is.isEmpty = js.isEmpty := by
  have hlength := h.length_eq
  rw [List.length_map, List.length_map] at hlength
  rw [Bool.eq_iff_iff, List.isEmpty_iff_length_eq_zero, List.isEmpty_iff_length_eq_zero, hlength]

/-- Findings in parts are the same if the parts are, one by one. -/
lemma flatten_forall₂ {parts parts' : List (List Issue)}
    (h : List.Forall₂ SameFindings parts parts') : SameFindings parts.flatten parts'.flatten := by
  induction h with
  | nil => exact refl _
  | cons hfirst _ ih => exact append hfirst ih

/-- Findings in parts are the same if the parts are, in whatever order. -/
lemma flatten {parts parts' : List (List Issue)} (h : Permuted SameFindings parts parts') :
    SameFindings parts.flatten parts'.flatten := by
  obtain ⟨hperm, hrel⟩ := h
  exact List.Perm.trans (hperm.flatten.map _) (flatten_forall₂ hrel)

end SameFindings

namespace Validation

variable {child : NodeChecker} {s : Schema} {v w : Value} {es fs : Entries} {vs ws : List Value}
  {path : Path}

/-- A checker has the same findings with values that differ only in the order of properties. -/
def SeesNoKeyOrder (child : NodeChecker) : Prop :=
  ∀ node v w path, v.Reordered w → Agree SameFindings (child node v path) (child node w path)

/-- The same findings with each of several things are the same findings in all, in whatever order
the things come. -/
lemma gather_findings {α β : Type} {P : α → β → Prop} {f : α → Check} {g : β → Check} {xs : List α}
    {zs : List β} (h : Permuted P xs zs)
    (hfg : ∀ x z, P x z → Agree SameFindings (f x) (g z)) :
    Agree SameFindings (gather xs f) (gather zs g) :=
  (Agree.mapM_permuted h hfg).map fun _ _ => SameFindings.flatten

/-- A computation has the same findings as itself. -/
lemma findings_same (x : Check) : Agree SameFindings x x :=
  (Agree.same x).mono fun is _ heq => heq ▸ SameFindings.refl is

/-! ### Scalars -/

/-- The type is right or wrong alike. -/
lemma checkType_reordered (h : v.Reordered w) : checkType s v path = checkType s w path := by
  have htype : hasType s v = hasType s w := by
    rw [Conformance.hasType_eq_meetsType, Conformance.hasType_eq_meetsType]
    unfold Conformance.meetsType
    cases h <;> cases s.type with
    | none => rfl
    | some t => cases t <;> rfl
  rw [checkType, checkType, htype, h.kindName_eq]

/-- The same values are among those that are allowed. -/
lemma checkEnum_reordered (h : v.Reordered w) :
    SameFindings (checkEnum s v path) (checkEnum s w path) := by
  unfold checkEnum
  cases s.enum with
  | none => exact .refl _
  | some members =>
    have hsame : members.any v.jsonEqual = members.any w.jsonEqual :=
      congrArg members.any (funext h.sameData.jsonEqual_left)
    dsimp only
    rw [hsame]
    cases members.any w.jsonEqual <;> exact List.Perm.refl _

/-- A format sees no order of properties. -/
lemma checkFormat_reordered (h : v.Reordered w) (format : Value) :
    checkFormat v format = checkFormat w format := by
  have hknown : ∀ name known, checkKnown name known v = checkKnown name known w := by
    intro name known
    cases h with
    | scalar _ => rfl
    | list _ _ | tuple _ _ | mapping _ _ _ _ => cases known <;> rfl
  unfold checkFormat
  simp only [hknown]

/-- Keywords for scalars see no order of properties. -/
lemma checkScalar_reordered (h : v.Reordered w) : checkScalar s v path = checkScalar s w path := by
  have hformat := checkFormat_reordered h s.format
  cases h with
  | scalar _ => rfl
  | list _ _ | tuple _ _ | mapping _ _ _ _ =>
    rw [checkScalar_eq, checkScalar_eq, checkFormatKeyword_eq, checkFormatKeyword_eq, hformat]
    rfl

/-! ### Objects and arrays -/

/-- The same findings with declared properties. -/
lemma checkProperties_reordered (h : es.Reordered fs) (hchild : SeesNoKeyOrder child) :
    Agree SameFindings (checkProperties child s es path) (checkProperties child s fs path) := by
  refine gather_findings (P := Eq) (.of_forall₂ (List.forall₂_refl _)) ?_
  rintro p _ rfl
  match es.get? (.str p.1), fs.get? (.str p.1), h.get? p.1 with
  | _, _, .none => exact findings_same _
  | _, _, .some hvw => exact hchild p.2 _ _ _ hvw

/-- The same names are missing. -/
lemma checkRequiredName_reordered (h : es.Reordered fs) :
    checkRequiredName es path = checkRequiredName fs path := by
  funext name
  rw [checkRequiredName, checkRequiredName, h.has]

/-- The same properties are not declared, in some order. -/
lemma undeclared_permuted (h : es.Reordered fs) :
    Permuted Entries.SameEntry (undeclared s es) (undeclared s fs) :=
  h.permuted.filter fun e f hef => by rw [hef.1]

/-- The same findings with undeclared properties. -/
lemma checkAdditional_reordered (h : es.Reordered fs) (hchild : SeesNoKeyOrder child) :
    Agree SameFindings (checkAdditional child s es path) (checkAdditional child s fs path) := by
  have hextra := undeclared_permuted (s := s) h
  unfold checkAdditional
  cases s.additional with
  | unspecified => exact findings_same _
  | flag allowed =>
    cases allowed with
    | true => exact findings_same _
    | false =>
      refine .ok ?_
      unfold SameFindings
      rw [List.map_map, List.map_map]
      refine hextra.map_perm fun e f hef => ?_
      simp only [Function.comp_apply, unexpectedProperty, hef.1]
  | schema node =>
    refine gather_findings hextra fun e f hef => ?_
    rw [hef.1]
    exact hchild node _ _ _ hef.2

/-- The same findings with an object. -/
lemma checkObject_reordered (h : v.Reordered w) (hchild : SeesNoKeyOrder child) :
    Agree SameFindings (checkObject child s v path) (checkObject child s w path) := by
  unfold checkObject
  match v.objectView? s.required, w.objectView? s.required, h.objectView? s.required with
  | _, _, .none => exact findings_same _
  | _, _, .some hes =>
    dsimp only
    rw [checkRequiredName_reordered hes, hes.permuted.length_eq]
    refine (checkProperties_reordered hes hchild).bind fun declared declared' hdeclared => ?_
    refine (findings_same _).bind fun required required' hrequired => ?_
    refine (checkAdditional_reordered hes hchild).bind fun additional additional' hadditional => ?_
    refine (findings_same _).bind fun count count' hcount => ?_
    exact .ok (((hdeclared.append hrequired).append hadditional).append hcount)

/-- The same findings with items. -/
lemma checkItems_reordered (h : List.Forall₂ Value.Reordered vs ws)
    (hchild : SeesNoKeyOrder child) :
    Agree SameFindings (checkItems child s vs path) (checkItems child s ws path) := by
  unfold checkItems
  cases s.items with
  | none => exact findings_same _
  | some node =>
    refine gather_findings (.of_forall₂ (forall₂_zipIdx h 0)) fun x y hxy => ?_
    rw [hxy.2]
    exact hchild node _ _ _ hxy.1

/-- The same items are repeated. -/
lemma checkUnique_reordered (h : List.Forall₂ Value.Reordered vs ws) :
    checkUnique s vs path = checkUnique s ws path := by
  have hfirst : firstRepeated [] 0 vs = firstRepeated [] 0 ws :=
    Conformance.firstRepeated_sameData .nil (h.imp fun _ _ => Value.Reordered.sameData)
  rw [checkUnique, checkUnique, hfirst]

/-- The same findings with an array. -/
lemma checkArray_reordered (h : v.Reordered w) (hchild : SeesNoKeyOrder child) :
    Agree SameFindings (checkArray child s v path) (checkArray child s w path) := by
  unfold checkArray
  match v.items?, w.items?, h.items? with
  | _, _, .none => exact findings_same _
  | _, _, .some hvs =>
    dsimp only
    rw [checkUnique_reordered hvs, hvs.length_eq]
    refine (checkItems_reordered hvs hchild).bind fun each each' heach => ?_
    refine (findings_same _).bind fun count count' hcount => ?_
    exact .ok ((heach.append hcount).append (.refl _))

/-! ### Composition and nodes -/

/-- The same findings with a composition. The alternatives come in the same order, and each of
them is conformed to alike. -/
lemma checkComposition_reordered (h : v.Reordered w) (hchild : SeesNoKeyOrder child) :
    Agree SameFindings (checkComposition child s v path) (checkComposition child s w path) := by
  have hnone : ∀ n m, n = m → AgreeOnNone (child n v path) (child m w path) := by
    rintro n _ rfl
    exact (hchild n v w path h).mono fun _ _ => SameFindings.isEmpty_eq
  have hsame : ∀ nodes : List Node, Permuted Eq nodes nodes := fun nodes =>
    .of_forall₂ (List.forall₂_refl nodes)
  have hnot : Option.Rel Eq s.notSchema s.notSchema := by
    cases s.notSchema with
    | none => exact .none
    | some node => exact .some rfl
  have hequal : ∀ {x y : Check}, Agree Eq x y → Agree SameFindings x y := fun hxy =>
    hxy.mono fun is _ heq => heq ▸ SameFindings.refl is
  have hmembers : Agree SameFindings (gather s.allOfList fun node => child node v path)
      (gather s.allOfList fun node => child node w path) := by
    refine gather_findings (hsame _) ?_
    rintro node _ rfl
    exact hchild node v w path h
  refine hmembers.bind fun all all' hall => ?_
  refine (hequal (checkAnyOf_agree (hsame _) hnone)).bind fun any any' hany => ?_
  refine (hequal (checkOneOf_agree (hsame _) hnone)).bind fun one one' hone => ?_
  refine (hequal (checkNot_agree hnot hnone)).bind fun not not' hnot => ?_
  exact .ok (((hall.append hany).append hone).append hnot)

/-- **The same findings with a schema**, given those with its child nodes. -/
lemma checkSchema_reordered (h : v.Reordered w) (hchild : SeesNoKeyOrder child) :
    Agree SameFindings (checkSchema child s v path) (checkSchema child s w path) := by
  have hkeywords : Agree SameFindings (checkKeywords child s v path)
      (checkKeywords child s w path) := by
    unfold checkKeywords
    rw [checkScalar_reordered h, checkType_reordered h]
    refine (findings_same _).bind fun scalar scalar' hscalar => ?_
    refine (checkObject_reordered h hchild).bind fun object object' hobject => ?_
    refine (checkArray_reordered h hchild).bind fun array array' harray => ?_
    refine (checkComposition_reordered h hchild).bind
      fun composition composition' hcomposition => ?_
    have hown : SameFindings (checkType s w path ++ checkEnum s v path)
        (checkType s w path ++ checkEnum s w path) :=
      (SameFindings.refl _).append (checkEnum_reordered h)
    exact .ok ((((hown.append hscalar).append hobject).append harray).append hcomposition)
  unfold checkSchema
  rw [h.isNull_eq]
  split
  · exact findings_same _
  · split
    · exact findings_same _
    · exact hkeywords

/-- **The same findings with a node** at every depth, if no run stops.

**Proof sketch.** Induction on the depth. A reference hands the values on to its target, and a
schema hands on parts of them, which differ only in the order of properties too. -/
theorem checkNode_reordered (registry : Registry) (limit : Int) (depth : Nat) :
    SeesNoKeyOrder (checkNode registry limit depth) := by
  intro node
  induction depth, node using registry.node_induction with
  | zero node =>
    intro v w path _ is js hv
    cases hv
  | unknown depth name hget =>
    intro v w path _
    rw [checkNode_unknown hget, checkNode_unknown hget]
    exact findings_same _
  | named depth name s hget ih =>
    intro v w path h
    rw [checkNode_named hget, checkNode_named hget]
    exact ih v w path h
  | link depth name other hget ih =>
    intro v w path h
    rw [checkNode_link hget, checkNode_link hget]
    exact ih v w path h
  | schema depth s ih => exact fun v w path h => checkSchema_reordered h ih

end Validation

end DataSchema
