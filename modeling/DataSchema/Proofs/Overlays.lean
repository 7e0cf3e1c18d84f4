import Mathlib.Data.Set.Disjoint
import DataSchema.Proofs.Acceptance
import DataSchema.Proofs.Quiet

set_option autoImplicit false

/-!
# Objects cast property by property

A schema may ask no more of an object than that the properties that it declares conform, that
required ones are there, that there are no others if these are forbidden, and that there are not too
many. What it makes of an object has something new under the names that it declares, and what there
was or nothing under all other names. So this meets the schema if what is new does, and what several
such schemas make can be put over each other.

## Main definitions

* `DataSchema.Entries.Made` — entries made of others, with some of them new.
* `DataSchema.Keywords.IsPropertywise`, `DataSchema.Keywords.IsLayer` — schemas that judge objects
  property by property.
* `DataSchema.Casting.Yields` — casts that accept their value, with a result as said.

## Main results

* `DataSchema.Entries.Made.merge` — what is made of entries, put over others.
* `DataSchema.Keywords.IsPropertywise.meetsEntries_made` — what is made of an object meets the
  schema.
* `DataSchema.Casting.castOwn_accepts_propertywise`, `DataSchema.Casting.castOwn_made` — casts by
  the shape of such a schema.
-/

namespace DataSchema

namespace Entries

/-! ## Entries made of others -/

/-- Entries made of others: under some names there is something new that is fine, under the other
names what there was or nothing, and under kept names something if there was. -/
structure Made (es : Entries) (new kept : Set String) (fine : String → Value → Prop)
    (fs : Entries) : Prop where
  /-- They have names. -/
  named : fs.Named
  /-- What there is, is new and fine, or was there. -/
  get : ∀ name r, fs.get? (.str name) = some r → ∃ v, es.get? (.str name) = some v ∧
    (name ∈ new → fine name r) ∧ (name ∉ new → r = v)
  /-- What was there under kept names, is there. -/
  keep : ∀ name ∈ kept, ∀ v, es.get? (.str name) = some v → ∃ r, fs.get? (.str name) = some r

namespace Made

variable {es fs source part : Entries} {new new' kept kept' : Set String}
  {fine : String → Value → Prop}

/-- Entries with names are made of themselves, with nothing new. -/
lemma refl (h : es.Named) : es.Made ∅ kept fine es where
  named := h
  get _ r hr := ⟨r, hr, fun hno => absurd hno (Set.notMem_empty _), fun _ => rfl⟩
  keep _ _ v hv := ⟨v, hv⟩

/-- No entries are made of any. -/
lemma nil : es.Made new ∅ fine [] where
  named := .nil
  get _ _ hr := by cases hr
  keep _ hno := absurd hno (Set.notMem_empty _)

/-- What is kept may be less. -/
lemma mono (h : es.Made new kept fine fs) (hsub : kept' ⊆ kept) :
    es.Made new kept' fine fs :=
  ⟨h.named, h.get, fun name hname => h.keep name (hsub hname)⟩

/-- What is made of entries is no more than they are. -/
lemma length_le (h : es.Made new kept fine fs) : fs.length ≤ es.length := by
  refine h.named.length_le fun name hname => ?_
  obtain ⟨r, hr⟩ := Option.isSome_iff_exists.1 hname
  obtain ⟨v, hv, -⟩ := h.get name r hr
  rw [hv]
  rfl

/-- **What a layer makes of entries, put over others**: what is new in the layer is new, and what
the layer has kept is kept. -/
lemma merge (h : es.Made new kept fine fs) (hsource : es.Made new Set.univ fine source)
    (hpart : source.Made new' kept' fine part) (hsub : new' ⊆ kept') :
    es.Made (new ∪ new') (kept ∪ kept') fine (fs.merge part) where
  named := h.named.merge hpart.named
  get := by
    intro name r hr
    rw [hpart.named.get?_merge] at hr
    cases hp : part.get? (.str name) with
    | some r' =>
      rw [hp, Option.some_or] at hr
      obtain rfl := Option.some.inj hr
      obtain ⟨w, hw, hfine, hsame⟩ := hpart.get name r' hp
      obtain ⟨v, hv, hfine', hsame'⟩ := hsource.get name w hw
      refine ⟨v, hv, fun hnew => ?_, fun hno => ?_⟩
      · by_cases hmem : name ∈ new'
        · exact hfine hmem
        · rw [hsame hmem]
          exact hfine' (hnew.resolve_right hmem)
      · rw [hsame fun hmem => hno (.inr hmem), hsame' fun hmem => hno (.inl hmem)]
    | none =>
      rw [hp, Option.none_or] at hr
      obtain ⟨v, hv, hfine, hsame⟩ := h.get name r hr
      -- what the layer declares would have come through it
      have hmem : name ∉ new' := by
        intro hmem
        obtain ⟨w, hw⟩ := hsource.keep name trivial v hv
        obtain ⟨r', hr'⟩ := hpart.keep name (hsub hmem) w hw
        rw [hp] at hr'
        cases hr'
      exact ⟨v, hv, fun hnew => hfine (hnew.resolve_right hmem),
        fun hno => hsame fun hnew => hno (.inl hnew)⟩
  keep := by
    intro name hname v hv
    rw [hpart.named.get?_merge]
    cases hp : part.get? (.str name) with
    | some r => exact ⟨r, rfl⟩
    | none =>
      rcases hname with hkept | hmem
      · exact h.keep name hkept v hv
      · obtain ⟨w, hw⟩ := hsource.keep name trivial v hv
        obtain ⟨r, hr⟩ := hpart.keep name hmem w hw
        rw [hp] at hr
        cases hr

/-- What is made of entries, put over them, is made of them and leaves out nothing. -/
lemma overlaid (hes : es.Named) (h : es.Made new kept fine fs) (hsub : new ⊆ kept) :
    es.Made new Set.univ fine (es.merge fs) := by
  have hmerge := (refl hes : es.Made ∅ Set.univ fine es).merge (refl hes) h hsub
  rwa [Set.empty_union, Set.univ_union] at hmerge

/-- What a layer makes of entries with nothing new is made of these. -/
lemma alone (hsource : es.Made ∅ Set.univ fine source) (hpart : source.Made new' kept' fine part)
    (hsub : new' ⊆ kept') : es.Made new' kept' fine part := by
  have hmerge := (nil : es.Made ∅ ∅ fine []).merge hsource hpart hsub
  rwa [Set.empty_union, Set.empty_union, hpart.named.nil_merge] at hmerge

end Made

end Entries

/-! ## Schemas that judge objects property by property -/

namespace Keywords

/-- The names of the properties that a schema declares. -/
def names (s : Schema) : Set String := {name | s.declares (.str name) = true}

/-- A schema judges objects property by property: it asks no more than that declared properties
conform, that required ones are there, that there are no undeclared ones if these are forbidden, and
that there are not too many. -/
structure IsPropertywise (s : Schema) : Prop where
  /-- Objects are allowed. -/
  type : s.type = none ∨ s.type = some .object
  /-- No values are listed. -/
  enum : s.enum = none
  /-- No node applies to undeclared properties. -/
  additional : s.additional.node? = none
  /-- Properties cannot be too few. -/
  minProperties : s.minProperties.isNull = true
  /-- There is nothing that must not match. -/
  notSchema : s.notSchema = none

/-- A schema that judges objects property by property, and is not composed. -/
structure IsLayer (s : Schema) : Prop extends s.IsPropertywise where
  /-- The schema is not composed. -/
  plain : s.isComposed = false

/-- The names of the properties that a schema keeps: all if undeclared ones are kept. -/
def kept (s : Schema) : Set String := {name | Casting.keepsExtra s = true ∨ name ∈ s.names}

variable {s : Schema} {name : String}

/-- A name is declared when a property has it. -/
lemma mem_names : name ∈ s.names ↔ ∃ c, (name, c) ∈ s.declared := by
  show s.declares (.str name) = true ↔ _
  rw [declares_iff]
  constructor
  · rintro ⟨p, hp, hname⟩
    obtain rfl := Value.str.inj hname
    exact ⟨p.2, hp⟩
  · rintro ⟨c, hc⟩
    exact ⟨(name, c), hc, rfl⟩

/-- Declared properties are kept. -/
lemma names_subset_kept : s.names ⊆ s.kept := fun _ hname => .inr hname

/-- A schema that declares no properties declares no names. -/
lemma names_eq_empty (h : s.properties = none) : s.names = ∅ := by
  refine Set.eq_empty_iff_forall_notMem.2 fun name hname => ?_
  obtain ⟨c, hc⟩ := mem_names.1 hname
  rw [declared, h] at hc
  cases hc

namespace IsPropertywise

variable {test : NodeTest} {es fs : Entries} {new kept : Set String}
  {fine : String → Value → Prop}

/-- A schema judges objects property by property without its alternatives too. -/
lemma withoutAlternatives (h : s.IsPropertywise) : s.withoutAlternatives.IsPropertywise where
  type := h.type
  enum := h.enum
  additional := h.additional
  minProperties := h.minProperties
  notSchema := h.notSchema

/-- An object meets the schema by its entries and the composition. -/
lemma meetsSchema (h : s.IsPropertywise) (test : NodeTest) (es : Entries) :
    Conformance.meetsSchema test s (.mapping es) =
      (Conformance.meetsEntries test s es &&
        Conformance.meetsComposition test s (.mapping es)) := by
  have htype : Conformance.meetsType s (.mapping es) = true := by
    unfold Conformance.meetsType
    rcases h.type with ht | ht
    · rw [ht]
    · rw [ht]
      rfl
  have hscalar : Conformance.meetsScalar s (.mapping es) = true :=
    Conformance.meetsFormat_of_not (by simp) (by simp) s.format
  have hnull : ∀ b, ((Value.mapping es).isNull && b) = false := fun _ => rfl
  rw [Conformance.meetsSchema, hnull, hnull, Conformance.meetsKeywords, htype, hscalar,
    Conformance.meetsEnum, h.enum]
  show (_ && true && _) = _
  rw [Bool.and_true]
  rfl

/-- What is made of an object has undeclared properties only where the object has. -/
lemma meetsAdditional_made {test' : NodeTest} (h : s.IsPropertywise)
    (hmade : es.Made new kept fine fs) (hmeets : Conformance.meetsAdditional test s es = true) :
    Conformance.meetsAdditional test' s fs = true := by
  unfold Conformance.meetsAdditional at hmeets ⊢
  cases hadditional : s.additional with
  | unspecified => rfl
  | schema d =>
    have hnone := h.additional
    rw [hadditional] at hnone
    cases hnone
  | flag allowed =>
    cases allowed with
    | true => rfl
    | false =>
      rw [hadditional] at hmeets
      refine List.all_eq_true.2 fun e he => ?_
      obtain ⟨name, hname⟩ := hmade.named.text e he
      have hget := hmade.named.get?_of_mem he
      rw [hname] at hget ⊢
      obtain ⟨v, hv, -⟩ := hmade.get name e.2 hget
      exact List.all_eq_true.1 hmeets _ (Entries.mem_of_get? hv)

/-- **What is made of an object meets the schema** if the object does, required names are kept and
the declared properties conform. -/
lemma meetsEntries_made {test' : NodeTest} (h : s.IsPropertywise) (hes : es.Named)
    (hmade : es.Made new kept fine fs) (hmeets : Conformance.meetsEntries test s es = true)
    (hrequired : ∀ name, .str name ∈ s.required → name ∈ kept)
    (hdeclared : ∀ name c r, (name, c) ∈ s.declared → fs.get? (.str name) = some r →
      test' c r = true) : Conformance.meetsEntries test' s fs = true := by
  simp only [Conformance.meetsEntries, Bool.and_eq_true] at hmeets ⊢
  obtain ⟨⟨⟨⟨-, hnames⟩, hadditional⟩, -⟩, hmost⟩ := hmeets
  refine ⟨⟨⟨⟨?_, ?_⟩, h.meetsAdditional_made hmade hadditional⟩, ?_⟩,
    Casting.noMoreThan_of_le hmade.length_le hmost⟩
  · refine List.all_eq_true.2 fun p hp => ?_
    cases hr : fs.get? (.str p.1) with
    | none => rfl
    | some r => exact hdeclared p.1 p.2 r hp hr
  · refine List.all_eq_true.2 fun k hk => ?_
    have hhas := List.all_eq_true.1 hnames k hk
    by_cases htext : ∃ name, k = .str name
    · obtain ⟨name, rfl⟩ := htext
      obtain ⟨v, hv⟩ := Option.isSome_iff_exists.1 hhas
      obtain ⟨r, hr⟩ := hmade.keep name (hrequired name hk) v hv
      rw [Entries.has, hr]
      rfl
    · rw [Entries.has, hes.get?_notText fun name heq => htext ⟨name, heq⟩] at hhas
      cases hhas
  · rw [Conformance.atLeast, Conformance.operand_of_isNull h.minProperties]

end IsPropertywise

/-- An object meets a layer by its entries. -/
lemma IsLayer.meetsSchema (h : s.IsLayer) (test : NodeTest) (es : Entries) :
    Conformance.meetsSchema test s (.mapping es) = Conformance.meetsEntries test s es := by
  obtain ⟨hall, hone, hany⟩ := isComposed_eq_false.1 h.plain
  rw [h.toIsPropertywise.meetsSchema, Conformance.meetsComposition, hall, hone, hany, h.notSchema]
  simp

end Keywords

/-! ## Casts by their shapes -/

namespace Casting

open Validation Conformance

/-- A cast accepts its value, and its result is as said. -/
structure Yields {α : Type} (x : Casts α) (P : α → Prop) : Prop where
  /-- The cast does not fail with issues. -/
  accepts : Accepts x
  /-- A result is as said. -/
  result : ∀ a, x.outcome = .ok a → P a

namespace Yields

variable {α β : Type}

/-- A result yields what holds of it. -/
lemma pure {P : α → Prop} {a : α} (h : P a) : Yields (Pure.pure a) P :=
  ⟨.pure a, fun _ hr => Except.ok.inj hr ▸ h⟩

/-- Casts in a row yield what the last one does. -/
lemma bind {P : α → Prop} {Q : β → Prop} {x : Casts α} {g : α → Casts β} (hx : Yields x P)
    (hg : ∀ a, P a → Yields (g a) Q) : Yields (x >>= g) Q where
  accepts := .bind hx.accepts fun a ha => (hg a (hx.result a ha)).accepts
  result b hb := by
    obtain ⟨a, ha, hb⟩ := bind_outcome_ok.1 hb
    exact (hg a (hx.result a ha)).result b hb

end Yields

section object

variable {child : NodeCaster} {s : Schema} {es : Entries} {r : Value} {path : Path}
  {active : List String} {fine : String → Value → Prop}

/-- **What a cast of an object makes**: its declared properties are new, and others are as they
were or left out. -/
lemma castObject_made (hs : s.IsPropertywise) (hnames : (s.declared.map Prod.fst).Nodup)
    (hes : es.Named)
    (hfine : ∀ name c v q r, (name, c) ∈ s.declared → es.get? (.str name) = some v →
      (child c v q active).outcome = .ok r → fine name r)
    (h : (castObject child s (.mapping es) path active).outcome = .ok r) :
    ∃ fs, r = .mapping fs ∧ es.Made s.names s.kept fine fs := by
  obtain ⟨data, declared, others, hdata, -, -, hdeclared, hothers, -, -, rfl⟩ :=
    castObject_outcome_ok.1 h
  obtain rfl := Option.some.inj hdata
  have hget := castObject_get? hes hdeclared hothers
  have hnode : ∀ name, s.propertyNode? name = s.declared.lookup name := fun name => by
    rw [Keywords.propertyNode?, hs.additional, Option.or_none]
  refine ⟨_, rfl, castObject_named hes hnames hdeclared hothers, fun name r hr => ?_,
    fun name hname v hv => ?_⟩
  · rcases hget name with ⟨hnone, -⟩ | ⟨v, r', hv, hr', hcast⟩
    · rw [hnone] at hr
      cases hr
    · rw [hr] at hr'
      obtain rfl := Option.some.inj hr'
      refine ⟨v, hv, fun hname => ?_, fun hno => ?_⟩
      · obtain ⟨c, hc⟩ := Keywords.mem_names.1 hname
        have hlookup : s.declared.lookup name = some c := lookup_eq_of_nodup hnames hc
        rcases hcast with ⟨hnone, -⟩ | ⟨c', q, hc', hcast⟩
        · rw [hnode, hlookup] at hnone
          cases hnone
        · rw [hnode] at hc'
          exact hfine name c' v q r (mem_of_lookup hc') hv hcast
      · rcases hcast with ⟨-, hsame⟩ | ⟨c', q, hc', -⟩
        · exact hsame
        · rw [hnode] at hc'
          exact absurd (Keywords.mem_names.2 ⟨c', mem_of_lookup hc'⟩) hno
  · rcases hget name with ⟨-, hnone | ⟨hno, hdrop⟩⟩ | ⟨-, r, -, hr, -⟩
    · rw [hv] at hnone
      cases hnone
    · rcases hname with hkeep | hname
      · rw [hkeep] at hdrop
        cases hdrop
      · rw [Keywords.names, Set.mem_ofPred_eq, hno] at hname
        cases hname
    · exact ⟨r, hr⟩

/-- The schema casts an object as one, or it says nothing of objects and keeps it. -/
lemma castOwn_propertywise (child : NodeCaster) (hs : s.IsPropertywise) (es : Entries)
    (path : Path) (active : List String) :
    castOwn child s (.mapping es) path active = castObject child s (.mapping es) path active ∨
      s.properties = none ∧ castOwn child s (.mapping es) path active = (require do
        let scalar ← checkScalar s (.mapping es) path
        return checkEnum s (.mapping es) path ++ scalar) >>= fun _ => pure (.mapping es) := by
  unfold castOwn
  cases hcasts : castsObject s (.mapping es) with
  | true => exact .inl (if_pos rfl)
  | false =>
    have hnone : s.type = none ∧ s.properties = none := by
      rw [Bool.eq_false_iff, ne_eq, castsObject_eq_true] at hcasts
      rcases hs.type with htype | htype
      · exact ⟨htype, by simpa [htype, Value.isObject] using hcasts⟩
      · exact absurd (.inl htype) hcasts
    have hscalar : castScalar s (.mapping es) path = pure (.mapping es) := by
      refine Converts.castScalar_eq (.typed (.inr ⟨?_, by simp⟩) (.unasked _ ?_)) path
      · exact isTemporal_eq_false (by simp) (by simp) s.format
      · rw [Keywords.asksForScalar, hnone.1]
    have harray : castsArray s (.mapping es) = false := by
      rw [castsArray, hnone.1]
      exact Bool.and_false _
    refine .inr ⟨hnone.2, ?_⟩
    rw [harray, if_neg Bool.false_ne_true, if_neg Bool.false_ne_true, hscalar, pure_bind]

/-- **What the schema makes of an object by its shape.** -/
lemma castOwn_made (hs : s.IsPropertywise) (hnames : (s.declared.map Prod.fst).Nodup)
    (hes : es.Named)
    (hfine : ∀ name c v q r, (name, c) ∈ s.declared → es.get? (.str name) = some v →
      (child c v q active).outcome = .ok r → fine name r)
    (h : (castOwn child s (.mapping es) path active).outcome = .ok r) :
    ∃ fs, r = .mapping fs ∧ es.Made s.names s.kept fine fs := by
  rcases castOwn_propertywise child hs es path active with
    hown | ⟨hnone, hown⟩
  · rw [hown] at h
    exact castObject_made hs hnames hes hfine h
  · rw [hown] at h
    obtain ⟨_, -, h⟩ := bind_outcome_ok.1 h
    obtain rfl := Except.ok.inj h
    rw [Keywords.names_eq_empty hnone]
    exact ⟨es, rfl, .refl hes⟩

/-- **The schema accepts an object that conforms**, if the declared properties are accepted. -/
lemma castOwn_accepts_propertywise {test : NodeTest} (hs : s.IsPropertywise)
    (hnames : (s.declared.map Prod.fst).Nodup) (hes : es.Named)
    (hmeets : meetsEntries test s es = true)
    (hchild : ∀ name c v q, (name, c) ∈ s.declared → es.get? (.str name) = some v →
      Accepts (child c v q active)) : Accepts (castOwn child s (.mapping es) path active) := by
  rcases castOwn_propertywise child hs es path active with
    hown | ⟨-, hown⟩
  · rw [hown]
    refine castObject_accepts hes hmeets hnames (.inl hs.minProperties) fun name v c hv hc q => ?_
    rw [Keywords.propertyNode?, hs.additional, Option.or_none] at hc
    exact hchild name c v q (mem_of_lookup hc) hv
  · rw [hown]
    refine .bind (requireScalar_accepts ?_ ?_) fun _ _ => .pure _
    · rw [meetsEnum, hs.enum]
    · exact meetsFormat_of_not (by simp) (by simp) s.format

end object

end Casting

end DataSchema
