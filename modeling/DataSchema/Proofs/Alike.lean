import DataSchema.Proofs.Descent
import DataSchema.Proofs.SameData

set_option autoImplicit false

/-!
# Values alike

Two values are alike if they differ in the order of their properties and in the kind of their whole
numbers alone. Values alike have the same data, and they conform to the same nodes as long as no
schema tells a whole double from the whole number.

## Main definitions

* `DataSchema.Value.IsJsonOf` — JSON values with given kinds of texts and doubles.
* `DataSchema.Value.Alike` — values alike.
* `DataSchema.Keywords.Conflates` — schemas that do not tell a double from the whole number.

## Main results

* `DataSchema.Value.Alike.sameData` — JSON values alike have the same data.
* `DataSchema.Conformance.meetsSchema_alike` — values alike meet the same schemas.
* `DataSchema.Conformance.conforms_alike` — values alike conform to the same nodes.
-/

namespace DataSchema

/-- Tests that agree on each of several things agree on all of them. -/
lemma all_congr_mem {α : Type} {xs : List α} {p q : α → Bool} (h : ∀ x ∈ xs, p x = q x) :
    xs.all p = xs.all q := by
  rw [Bool.eq_iff_iff, List.all_eq_true, List.all_eq_true]
  exact forall₂_congr fun x hx => by rw [h x hx]

/-- Tests that agree on each of several things agree on any of them. -/
lemma any_congr_mem {α : Type} {xs : List α} {p q : α → Bool} (h : ∀ x ∈ xs, p x = q x) :
    xs.any p = xs.any q := by
  rw [List.any_eq_not_all_not, List.any_eq_not_all_not, all_congr_mem fun x hx => by rw [h x hx]]

/-! ## JSON values -/

namespace Value

variable {T : String → Prop} {F : Binary64 → Prop}

/-- A value is one that JSON texts decode to, with certain texts and doubles in it: null, truth
values, numbers, texts, lists of such values, and mappings from distinct texts to such values. -/
inductive IsJsonOf (T : String → Prop) (F : Binary64 → Prop) : Value → Prop
  | null : IsJsonOf T F null
  | bool (b : Bool) : IsJsonOf T F (bool b)
  | int (n : Int) : IsJsonOf T F (int n)
  | float {x : Binary64} : F x → IsJsonOf T F (float x)
  | str {text : String} : T text → IsJsonOf T F (str text)
  | list {items : List Value} : (∀ v ∈ items, IsJsonOf T F v) → IsJsonOf T F (list items)
  | mapping {entries : Entries} : entries.Named → (∀ e ∈ entries, IsJsonOf T F e.2) →
    IsJsonOf T F (mapping entries)

namespace IsJsonOf

/-- The items of a JSON value are JSON values. -/
lemma item {v w : Value} {items : List Value} (h : v.IsJsonOf T F) (hitems : v.items? = some items)
    (hw : w ∈ items) : w.IsJsonOf T F := by
  cases h with
  | list hall =>
    obtain rfl := Option.some.inj hitems
    exact hall w hw
  | _ => cases hitems

/-- A JSON object has names. -/
lemma named {es : Entries} (h : (Value.mapping es).IsJsonOf T F) : es.Named := by
  cases h with
  | mapping hnamed _ => exact hnamed

/-- The properties of a JSON object are JSON values. -/
lemma property {es : Entries} (h : (Value.mapping es).IsJsonOf T F) {e : Value × Value}
    (he : e ∈ es) : e.2.IsJsonOf T F := by
  cases h with
  | mapping _ hall => exact hall e he

/-- A JSON value that is an object is a mapping. -/
lemma of_isObject {v : Value} (h : v.IsJsonOf T F) (hobject : v.isObject = true) :
    ∃ es, v = .mapping es := by
  cases h with
  | mapping _ _ => exact ⟨_, rfl⟩
  | _ => cases hobject

end IsJsonOf

/-! ## Values alike -/

/-- Values are alike if they are the same, up to the order of properties and up to whole doubles
in place of which there are whole numbers. -/
inductive Alike : Value → Value → Prop
  /-- A value is like itself. -/
  | same (v : Value) : Alike v v
  /-- A whole double is like the whole number. -/
  | whole {x : Binary64} {n : Int} : x.toInt? = some n → Alike (float x) (int n)
  /-- Arrays are alike item by item. -/
  | list {vs rs : List Value} : vs.length = rs.length → (∀ p ∈ vs.zip rs, Alike p.1 p.2) →
    Alike (list vs) (list rs)
  /-- Objects are alike name by name. -/
  | mapping {es fs : Entries} : fs.Named →
    (∀ name, (es.get? (.str name)).isSome = (fs.get? (.str name)).isSome) →
    (∀ name v r, es.get? (.str name) = some v → fs.get? (.str name) = some r → Alike v r) →
    Alike (mapping es) (mapping fs)

namespace Alike

variable {v r w : Value}

/-- A value like a JSON value is one, with no other texts and doubles. -/
lemma isJsonOf (h : v.Alike r) (hv : v.IsJsonOf T F) : r.IsJsonOf T F := by
  induction h with
  | same v => exact hv
  | whole _ => exact .int _
  | @list vs rs hlength _ ih =>
    refine .list fun r hr => ?_
    obtain ⟨i, hi, rfl⟩ := List.getElem_of_mem hr
    have hi' : i < vs.length := hlength ▸ hi
    exact ih _ (getElem_mem_zip hi' hi) (hv.item rfl (List.getElem_mem hi'))
  | @mapping es fs hnamed hsame _ ih =>
    refine .mapping hnamed fun e he => ?_
    obtain ⟨name, hname⟩ := hnamed.text e he
    have hr := hnamed.get?_of_mem he
    rw [hname] at hr
    have hsome : (es.get? (.str name)).isSome = true := by rw [hsame, hr, Option.isSome_some]
    obtain ⟨w, hw⟩ := Option.isSome_iff_exists.1 hsome
    exact ih name w e.2 hw hr (hv.property (Entries.mem_of_get? hw))

/-- What is like a value that is like another is like the other. -/
lemma trans (h : v.Alike r) (h' : r.Alike w) : v.Alike w := by
  induction h generalizing w with
  | same v => exact h'
  | whole hx =>
    cases h' with
    | same _ => exact .whole hx
  | @list vs rs hlength hall ih =>
    cases h' with
    | same _ => exact .list hlength hall
    | @list _ ws hlength' hall' =>
      refine .list (hlength.trans hlength') fun p hp => ?_
      obtain ⟨i, hi, rfl⟩ := List.getElem_of_mem hp
      rw [List.length_zip] at hi
      have hi' : i < rs.length := by omega
      rw [List.getElem_zip]
      exact ih _ (getElem_mem_zip (by omega) hi') (hall' _ (getElem_mem_zip hi' (by omega)))
  | @mapping es fs hnamed hsame hall ih =>
    cases h' with
    | same _ => exact .mapping hnamed hsame hall
    | @mapping _ gs hnamed' hsame' hall' =>
      refine .mapping hnamed' (fun name => (hsame name).trans (hsame' name)) ?_
      intro name v w hv hw
      obtain ⟨r, hr⟩ := Option.isSome_iff_exists.1 ((hsame name).symm.trans (by rw [hv]; rfl))
      exact ih name v r hv hr (hall' name r w hr hw)

/-- Values alike are both objects or neither. -/
lemma isObject (h : v.Alike r) : r.isObject = v.isObject := by
  cases h <;> rfl

/-- Values alike are both null or neither. -/
lemma isNull (h : v.Alike r) : r.isNull = v.isNull := by
  cases h <;> rfl

end Alike

/-! ## The same data -/

/-- A whole double has the place of the whole number. -/
lemma extent?_whole {x : Binary64} {n : Int} (h : x.toInt? = some n) :
    (Number.float x).extent? = (Number.int n).extent? := by
  unfold Binary64.toInt? Binary64.units? at h
  cases x with
  | nan => cases h
  | infinity negative => cases h
  | finite negative units _ =>
    have hunits : ∀ u : Int, (if u % Binary64.one = 0 then some (u / Binary64.one) else none) =
        some n → u = n * Binary64.one := by
      intro u hu
      split at hu
      next hdvd =>
        rw [← Option.some.inj hu, Int.ediv_mul_cancel (Int.dvd_of_emod_eq_zero hdvd)]
      next => cases hu
    rw [Number.extent?, Number.extent?, hunits _ h]

namespace Alike

variable {v r : Value}

/-- JSON values alike have the same data. -/
lemma sameData (h : v.Alike r) (hv : v.IsJsonOf T F) : v.SameData r := by
  induction h with
  | same v => exact .same v
  | whole hx => exact .number rfl rfl (extent?_whole hx)
  | list hlength _ ih =>
    exact .array rfl rfl hlength fun p hp => ih p hp (hv.item rfl (List.of_mem_zip hp).1)
  | mapping hnamed hsame _ ih =>
    exact .mapping hv.named hnamed hsame fun name v r hget hr =>
      ih name v r hget hr (hv.property (Entries.mem_of_get? hget))

end Alike

end Value

/-! ## Conformance to the same nodes -/

/-- A schema does not tell a double from the whole number that it is: both are multiples of what it
asks for or neither is, and the whole number has the format. -/
def Keywords.Conflates (s : Schema) (x : Binary64) : Prop :=
  ∀ n, x.toInt? = some n →
    Conformance.meetsMultiple s.multipleOf (.float x) =
        Conformance.meetsMultiple s.multipleOf (.int n) ∧
      Conformance.meetsFormat s.format (.int n) = true

namespace Conformance

open Value

variable {T : String → Prop} {F : Binary64 → Prop} {test : NodeTest} {s : Schema} {v r : Value}

/-- A value that is neither a text nor a whole number has every format. -/
lemma meetsFormat_of_not (hstr : ∀ text, v ≠ .str text) (hint : ∀ n, v ≠ .int n) (format : Value) :
    meetsFormat format v = true := by
  unfold meetsFormat
  split
  next name =>
    split
    next known _ =>
      cases v with
      | str text => exact absurd rfl (hstr text)
      | int n => exact absurd rfl (hint n)
      | _ => cases known <;> rfl
    next => rfl
  next => rfl

/-- Values alike are of the same types. -/
lemma meetsType_alike (h : v.Alike r) (s : Schema) : meetsType s v = meetsType s r := by
  cases h with
  | same v => rfl
  | whole hx =>
    unfold meetsType
    cases s.type with
    | none => rfl
    | some t => cases t <;> simp [isObject, isArray, items?, isInteger, isNumber, number?, hx]
  | list _ _ | mapping _ _ _ =>
    unfold meetsType
    cases s.type with
    | none => rfl
    | some t => cases t <;> rfl

/-- Values alike are among the same values. -/
lemma meetsEnum_alike (h : v.Alike r) (hv : v.IsJsonOf T F) (s : Schema) :
    meetsEnum s v = meetsEnum s r := by
  unfold meetsEnum
  cases s.enum with
  | none => rfl
  | some members => exact congrArg members.any (funext fun u => (h.sameData hv).jsonEqual_left u)

/-- A whole double lies within the same bounds as the whole number. -/
lemma meetsNumber_whole {x : Binary64} {n : Int} (hx : x.toInt? = some n) (hs : s.Conflates x) :
    meetsNumber s (.float x) = meetsNumber s (.int n) := by
  simp only [meetsNumber, aboveMinimum, belowMaximum, Number.less, Number.atMost, Number.equal,
    extent?_whole hx, (hs n hx).1]

/-- Values alike meet the same rules for scalars. -/
lemma meetsScalar_alike (h : v.Alike r) (hv : v.IsJsonOf T F) (hs : ∀ x, F x → s.Conflates x) :
    meetsScalar s v = meetsScalar s r := by
  cases h with
  | same v => rfl
  | @whole x n hx =>
    cases hv with
    | float hF =>
      have hformat : meetsFormat s.format (.float x) = true :=
        meetsFormat_of_not (by simp) (by simp) _
      simp only [meetsScalar, str?, number?, Option.all_some, Option.all_none,
        meetsNumber_whole hx (hs x hF), (hs x hF n hx).2, hformat]
  | list _ _ =>
    have hformat : ∀ items, meetsFormat s.format (.list items) = true := fun _ =>
      meetsFormat_of_not (by simp) (by simp) _
    simp only [meetsScalar, str?, number?, hformat]
  | mapping _ _ _ =>
    have hformat : ∀ es, meetsFormat s.format (.mapping es) = true := fun _ =>
      meetsFormat_of_not (by simp) (by simp) _
    simp only [meetsScalar, str?, number?, hformat]

/-- A test comes to the same for values alike. -/
def Blind (T : String → Prop) (F : Binary64 → Prop) (test : NodeTest) (c : Node) : Prop :=
  ∀ v r, Value.IsJsonOf T F v → v.Alike r → test c v = test c r

/-- Objects alike meet the same rules. -/
lemma meetsEntries_alike {es fs : Entries} (hes : es.Named) (hfs : fs.Named)
    (hsame : ∀ name, (es.get? (.str name)).isSome = (fs.get? (.str name)).isSome)
    (hall : ∀ name v r, es.get? (.str name) = some v → fs.get? (.str name) = some r → v.Alike r)
    (hjson : ∀ e ∈ es, e.2.IsJsonOf T F) (hchild : ∀ c ∈ s.partNodes, Blind T F test c) :
    meetsEntries test s es = meetsEntries test s fs := by
  have hlength : es.length = fs.length := by simpa using (hes.keys_perm hfs hsame).length_eq
  have hvalue : ∀ c ∈ s.partNodes, ∀ name v r, es.get? (.str name) = some v →
      fs.get? (.str name) = some r → test c v = test c r := fun c hc name v r hv hr =>
    hchild c hc v r (hjson _ (Entries.mem_of_get? hv)) (hall name v r hv hr)
  have hdeclared : (s.declared.all fun p => (es.get? (.str p.1)).all (test p.2)) =
      s.declared.all fun p => (fs.get? (.str p.1)).all (test p.2) := by
    refine all_congr_mem fun p hp => ?_
    have hboth := hsame p.1
    cases hv : es.get? (.str p.1) with
    | none =>
      rw [hv, Option.isSome_none, eq_comm, Option.isSome_eq_false_iff, Option.isNone_iff_eq_none]
        at hboth
      rw [hboth]
    | some v =>
      rw [hv, Option.isSome_some, eq_comm, Option.isSome_iff_exists] at hboth
      obtain ⟨r, hr⟩ := hboth
      rw [hr]
      exact hvalue p.2 (Keywords.mem_partNodes_declared hp) p.1 v r hv hr
  have hrequired : s.required.all es.has = s.required.all fs.has :=
    congrArg s.required.all (funext (hes.has_eq hfs hsame))
  have hadditional : meetsAdditional test s es = meetsAdditional test s fs := by
    unfold meetsAdditional
    cases hadditional : s.additional with
    | unspecified => rfl
    | flag allowed =>
      cases allowed with
      | true => rfl
      | false => exact hes.all_eq hfs hsame fun _ _ _ _ _ => rfl
    | schema node =>
      refine hes.all_eq hfs hsame fun name v r hv hr => ?_
      dsimp only
      rw [hvalue node (Keywords.mem_partNodes_additional hadditional) name v r hv hr]
  rw [meetsEntries, meetsEntries, hdeclared, hrequired, hadditional, hlength]

/-- Values alike meet the same rules for objects. -/
lemma meetsObject_alike (h : v.Alike r) (hv : v.IsJsonOf T F)
    (hchild : ∀ c ∈ s.partNodes, Blind T F test c) :
    meetsObject test s v = meetsObject test s r := by
  cases h with
  | same v => rfl
  | whole _ | list _ _ => rfl
  | @mapping es fs hfs hsame hall =>
    exact meetsEntries_alike hv.named hfs hsame hall (fun _ => hv.property) hchild

/-- Items alike repeat each other alike. -/
lemma areDistinct_alike {vs rs : List Value} (hlength : vs.length = rs.length)
    (hall : ∀ p ∈ vs.zip rs, p.1.Alike p.2) (hjson : ∀ v ∈ vs, v.IsJsonOf T F) :
    areDistinct vs = areDistinct rs :=
  areDistinct_sameData <| List.forall₂_iff_zip.2
    ⟨hlength, fun h => (hall _ h).sameData (hjson _ (List.of_mem_zip h).1)⟩

/-- Values alike meet the same rules for arrays. -/
lemma meetsArray_alike (h : v.Alike r) (hv : v.IsJsonOf T F)
    (hchild : ∀ c ∈ s.partNodes, Blind T F test c) :
    meetsArray test s v = meetsArray test s r := by
  cases h with
  | same v => rfl
  | whole _ | mapping _ _ _ => rfl
  | @list vs rs hlength hall =>
    have hjson : ∀ v ∈ vs, IsJsonOf T F v := fun v => hv.item rfl
    have hitems : (s.items.all fun node => vs.all (test node)) =
        s.items.all fun node => rs.all (test node) := by
      cases hnode : s.items with
      | none => rfl
      | some node =>
        have hmap : vs.map (test node) = rs.map (test node) := by
          refine List.ext_getElem (by simpa using hlength) fun i hi hi' => ?_
          rw [List.length_map] at hi hi'
          rw [List.getElem_map, List.getElem_map]
          exact hchild node (Keywords.mem_partNodes_items hnode) _ _
            (hjson _ (List.getElem_mem hi)) (hall _ (getElem_mem_zip hi hi'))
        have hid : ∀ xs : List Value, xs.all (test node) = (xs.map (test node)).all id :=
          fun xs => by rw [List.all_map]; rfl
        rw [Option.all_some, Option.all_some, hid, hid, hmap]
    show meetsItems test s vs = meetsItems test s rs
    rw [meetsItems, meetsItems, hitems, hlength, areDistinct_alike hlength hall hjson]

/-- Values alike meet the same rules for composition. -/
lemma meetsComposition_alike (h : v.Alike r) (hv : v.IsJsonOf T F)
    (hchild : ∀ c ∈ s.sameNodes, Blind T F test c) :
    meetsComposition test s v = meetsComposition test s r := by
  have hnode : ∀ c ∈ s.sameNodes, test c v = test c r := fun c hc => hchild c hc v r hv h
  have hmembers : (s.allOfList.all fun c => test c v) = s.allOfList.all fun c => test c r :=
    all_congr_mem fun c hc => hnode c (Keywords.mem_sameNodes_allOf hc)
  have hany : (s.anyOfList.any fun c => test c v) = s.anyOfList.any fun c => test c r :=
    any_congr_mem fun c hc => hnode c (Keywords.mem_sameNodes_anyOf hc)
  have hone : (s.oneOfList.countP fun c => test c v) = s.oneOfList.countP fun c => test c r :=
    List.countP_congr fun c hc => by rw [hnode c (Keywords.mem_sameNodes_oneOf hc)]
  have hnot : (s.notSchema.all fun c => !test c v) = s.notSchema.all fun c => !test c r := by
    cases hsome : s.notSchema with
    | none => rfl
    | some c => rw [Option.all_some, Option.all_some, hnode c (Keywords.mem_sameNodes_not hsome)]
  rw [meetsComposition, meetsComposition, hmembers, hany, hone, hnot]

/-- **Values alike meet the same schemas**, if nodes below do not tell values alike. -/
lemma meetsSchema_alike (hs : ∀ x, F x → s.Conflates x)
    (hchild : ∀ c ∈ s.children, Blind T F test c) :
    Blind T F (fun _ => meetsSchema test s) (.schema s) := by
  intro v r hv h
  have hparts : ∀ c ∈ s.partNodes, Blind T F test c := fun c hc =>
    hchild c (Keywords.mem_children_of_part hc)
  have hsame : ∀ c ∈ s.sameNodes, Blind T F test c := fun c hc =>
    hchild c (Keywords.mem_children_of_same hc)
  simp only [meetsSchema, meetsKeywords, h.isNull, meetsType_alike h, meetsEnum_alike h hv,
    meetsScalar_alike h hv hs, meetsObject_alike h hv hparts, meetsArray_alike h hv hparts,
    meetsComposition_alike h hv hsame]

/-- **Values alike conform to the same nodes** at every depth, if no schema tells a whole double
from the whole number.

**Proof sketch.** Induction on the depth. A reference hands on to its target; a schema has values
alike at the nodes below it, where they conform alike. -/
theorem conforms_alike {registry : Registry} (depth : Nat) {node : Node}
    (hs : ∀ s, registry.Reaches Keywords.children node s → ∀ x, F x → s.Conflates x) :
    Blind T F (conforms registry depth) node := by
  induction depth, node using registry.node_induction with
  | zero node => exact fun v r _ _ => rfl
  | unknown depth name hget =>
    intro v r _ _
    rw [conforms_unknown hget, conforms_unknown hget]
  | named depth name s hget ih =>
    intro v r hv h
    rw [conforms_named hget, conforms_named hget]
    exact ih (fun t ht => hs t (.ref hget ht)) v r hv h
  | link depth name other hget ih =>
    intro v r hv h
    rw [conforms_link hget, conforms_link hget]
    exact ih (fun t ht => hs t (.ref hget ht)) v r hv h
  | schema depth s ih =>
    exact meetsSchema_alike (hs s (.here s)) fun c hc => ih c fun t ht => hs t (.child hc ht)

end Conformance

end DataSchema
