import DataSchema.Proofs.MergedDocuments
import DataSchema.Proofs.Pointers

set_option autoImplicit false

/-!
# References by name

A reference is a place, a slash, and an escaped name. Whatever the place and the name, the name is
what a reference is read as: the escaped name has no slash, so that it is all that stands after the
last one. In a registry that is read from a document, a reference to a name of the document leads to
the entry with that name and to no other.

## Main definitions

* `DataSchema.Pointer.reference` — the reference to a name, from a place.
* `DataSchema.Value.RefersTo` — documents that refer to a name.
* `DataSchema.Entries.SendsTo` — discriminators that refer to a name for a tag.
* `DataSchema.Registry.position?` — the entry that a reference leads to.

## Main results

* `DataSchema.Pointer.lastToken_reference` — the name comes back.
* `DataSchema.Registry.resolve?_eq_position` — what is found is what stands at the position.
* `DataSchema.references_find_names` — references to the names of a document that is read.
-/

namespace DataSchema

/-! ## References -/

namespace Pointer

/-- The reference to a name, from a place. -/
def reference (place name : String) : String := place ++ "/" ++ escape name

/-- **The name of a reference comes back**, whatever characters it and the place have. -/
lemma lastToken_reference (place name : String) : lastToken (reference place name) = name := by
  have hchars : (reference place name).toList =
      place.toList ++ '/' :: escapeChars name.toList := by
    simp [reference, escape]
  have hlast : ((reference place name).toList.reverse.takeWhile (· ≠ '/')).reverse =
      escapeChars name.toList := by
    have hescaped : ∀ c ∈ (escapeChars name.toList).reverse, decide (c ≠ '/') = true := by
      intro c hc
      rw [List.mem_reverse] at hc
      exact decide_eq_true fun hslash => slash_notMem_escapeChars _ (hslash ▸ hc)
    rw [hchars, List.reverse_append, List.reverse_cons, List.append_assoc, List.singleton_append,
      List.takeWhile_append_of_pos hescaped, List.takeWhile_cons_of_neg (by simp), List.append_nil,
      List.reverse_reverse]
  have hslash : (reference place name).toList.contains '/' = true := by
    simp [hchars]
  rw [lastToken]
  simp only [hslash, if_true, hlast, unescapeChars_escapeChars, String.ofList_toList]

/-- A reference is not empty. -/
lemma reference_ne_empty (place name : String) : reference place name ≠ "" := by
  intro h
  have hchars := congrArg String.toList h
  simp [reference] at hchars

end Pointer

/-- A document refers to a name, from some place. -/
def Value.RefersTo (document : Value) (name : String) : Prop :=
  ∃ (es : Entries) (place : String), document = .mapping es ∧
    es.get? (.str "$ref") = some (.str (Pointer.reference place name))

/-- A document that refers to a name is read as a reference to the name. -/
lemma Value.RefersTo.readNode {document : Value} {name : String} (h : document.RefersTo name)
    (strictness : Strictness) (location : String) :
    (document.readNode strictness location).outcome = .ok (.ref name) := by
  obtain ⟨es, place, rfl, href⟩ := h
  rw [Value.readNode, Value.depth, SchemaReader.readNode, SchemaReader.readMapping, href]
  split
  next heq =>
    have hempty := Value.str.inj (Option.some.inj heq)
    exact absurd hempty (Pointer.reference_ne_empty place name)
  next heq =>
    obtain rfl := Value.str.inj (Option.some.inj heq)
    rw [Traced.outcome_pure, Pointer.lastToken_reference]
  next hother heq => exact absurd (Option.some.inj heq).symm (hother _)
  next heq => cases heq

/-! ## Discriminators -/

namespace SchemaReader

variable {α : Type}

/-- What is put among named things is found under its name, and what is there under another name is
found as before. -/
lemma lookup_putNamed (xs : List (String × α)) (name name' : String) (a : α) :
    (putNamed xs name a).lookup name' = if name' = name then some a else xs.lookup name' := by
  induction xs with
  | nil => grind [putNamed, List.lookup]
  | cons x xs ih => grind [putNamed, List.lookup]

/-- Of things put over others, the last with a name is found, or else what was found before. -/
lemma lookup_foldl_putNamed (xs acc : List (String × α)) (name : String) :
    (xs.foldl (fun acc x => putNamed acc x.1 x.2) acc).lookup name =
      (xs.reverse.lookup name).or (acc.lookup name) := by
  induction xs generalizing acc with
  | nil => rfl
  | cons x xs ih =>
    have hlast : [x].lookup name = if name = x.1 then some x.2 else none := by
      grind [List.lookup]
    rw [List.foldl_cons, ih, lookup_putNamed, List.reverse_cons, List.lookup_append, hlast,
      Option.or_assoc]
    split <;> rfl

/-- Of things with one name, each put over those before it, the last is found. -/
lemma lookup_ofNamed (xs : List (String × α)) (name : String) :
    (ofNamed xs).lookup name = xs.reverse.lookup name := by
  rw [ofNamed, lookup_foldl_putNamed, List.lookup_nil, Option.or_none]

end SchemaReader

/-- A discriminator has references to a name, from whatever place, under a tag in its plain form. -/
def Entries.SendsTo (discriminator : Entries) (tag name : String) : Prop :=
  ∃ (property : String) (targets : Entries),
    discriminator.get? (.str "propertyName") = some (.str property) ∧
    discriminator.get? (.str "mapping") = some (.mapping targets) ∧
    (∃ e ∈ targets, e.1.text = tag) ∧
    ∀ e ∈ targets, e.1.text = tag → ∃ place, e.2 = .str (Pointer.reference place name)

namespace SchemaReader

variable {tag name : String}

/-- A tag with references to a name has the name for its target. -/
lemma lookup_readTargets {targets : Entries} (hsome : ∃ e ∈ targets, e.1.text = tag)
    (hall : ∀ e ∈ targets, e.1.text = tag → ∃ place, e.2 = .str (Pointer.reference place name)) :
    (readTargets targets).lookup tag = some name := by
  rw [readTargets, lookup_ofNamed]
  obtain ⟨e, he, rfl⟩ := hsome
  obtain ⟨target, htarget⟩ := lookup_of_mem (List.mem_reverse.2
    (List.mem_map_of_mem (f := fun e => (e.1.text, Pointer.lastToken e.2.text)) he))
  obtain ⟨e', he', heq⟩ := List.mem_map.1 (List.mem_reverse.1 (mem_of_lookup htarget))
  obtain ⟨htag, rfl⟩ := Prod.mk.inj heq
  obtain ⟨place, hplace⟩ := hall e' he' htag
  rw [htarget, hplace]
  exact congrArg some (Pointer.lastToken_reference place name)

/-- A discriminator with references to a name under a tag is read, with the name for the tag. -/
lemma readDiscriminator_of_sendsTo {es discriminator : Entries}
    (hes : es.get? (.str "discriminator") = some (.mapping discriminator))
    (h : discriminator.SendsTo tag name) (location : String) : ∃ d,
      (readDiscriminator es location).outcome = .ok (some d) ∧
        d.targets.lookup tag = some name := by
  obtain ⟨property, targets, hproperty, hmapping, hsome, hall⟩ := h
  refine ⟨⟨property, readTargets targets⟩, ?_, lookup_readTargets hsome hall⟩
  have hset : (Value.mapping targets).isTruthy = true := by
    obtain ⟨e, he, -⟩ := hsome
    cases targets with
    | nil => cases he
    | cons _ _ => rfl
  simp only [readDiscriminator, hes, hproperty, hmapping, Option.getD_some, hset, Bool.not_true]
  rfl

/-- A schema has the discriminator that is read. -/
lemma discriminator_of_readNode {es : Entries} {strictness : Strictness} {location : String}
    {node : Node} (href : es.get? (.str "$ref") = none)
    (h : ((Value.mapping es).readNode strictness location).outcome = .ok node) :
    ∃ s, node = .schema s ∧ (readDiscriminator es location).outcome = .ok s.discriminator := by
  rw [Value.readNode, Value.depth, readNode, readMapping, href] at h
  simp only [readSchema, Traced.outcome_bind, bind_eq_ok, Traced.outcome_pure,
    Except.ok.injEq] at h
  obtain ⟨s, ⟨_, -, _, -, _, -, _, -, _, -, _, -, _, -, _, -, _, -, _, -, _, -, discriminator,
    hdiscriminator, -, -, rfl⟩, rfl⟩ := h
  exact ⟨_, rfl, hdiscriminator⟩

end SchemaReader

/-! ## Entries of registries -/

namespace Registry

variable {registry : Registry}

/-- The position of the entry that a reference leads to, the first with its name. -/
def position? (registry : Registry) : Node → Option Nat
  | .ref name => registry.entries.findIdx? fun e => e.1 == name
  | .schema _ => none

/-- What is found under a name stands where the name first does. -/
lemma lookup_eq_getElem? (entries : List (String × Node)) (name : String) :
    entries.lookup name =
      ((entries.findIdx? fun e => e.1 == name).bind fun i => entries[i]?).map Prod.snd := by
  induction entries with
  | nil => rfl
  | cons e entries ih =>
    rw [List.findIdx?_cons]
    cases hname : e.1 == name with
    | true => grind [List.lookup]
    | false => grind [List.lookup]

/-- **What a reference resolves to stands at its position**, under its name. -/
theorem resolve?_eq_position (registry : Registry) (name : String) :
    registry.resolve? (.ref name) =
      ((registry.position? (.ref name)).bind fun i => registry.entries[i]?).map fun e =>
        (e.2, some name) := by
  rw [resolve?, get?, lookup_eq_getElem?, position?, Option.map_map]
  rfl

/-- The entry at the position of a reference has the name that is referred to. -/
lemma name_of_position {name : String} {i : Nat} (h : registry.position? (.ref name) = some i) :
    ∃ node, registry.entries[i]? = some (name, node) := by
  obtain ⟨hi, hname, -⟩ := List.findIdx?_eq_some_iff_getElem.1 h
  rw [beq_iff_eq] at hname
  exact ⟨registry.entries[i].2, by rw [List.getElem?_eq_getElem hi, ← hname]⟩

/-- In a registry in which no name stands twice, a reference leads to the entry with its name. -/
lemma position_eq_some (hnames : (registry.entries.map Prod.fst).Nodup) {name : String}
    {node : Node} {i : Nat} (h : registry.entries[i]? = some (name, node)) :
    registry.position? (.ref name) = some i := by
  obtain ⟨hi, hentry⟩ := List.getElem?_eq_some_iff.1 h
  refine List.findIdx?_eq_some_iff_getElem.2 ⟨hi, by rw [hentry]; exact beq_self_eq_true name, ?_⟩
  intro j hj hname
  have hlti : i < (registry.entries.map Prod.fst).length := by simpa using hi
  have hltj : j < (registry.entries.map Prod.fst).length := hj.trans hlti
  have hsame : (registry.entries.map Prod.fst)[j] = (registry.entries.map Prod.fst)[i] := by
    rw [List.getElem_map, List.getElem_map, hentry, beq_iff_eq.1 hname]
  exact hj.ne ((hnames.getElem_inj_iff).1 hsame)

end Registry

/-- An entry of a document that is read as a registry is read as the entry at the same position. -/
lemma entry_of_readRegistry {strictness : Strictness} {location : String} {es : Entries}
    {registry : Registry}
    (h : ((Value.mapping es).readRegistry strictness location).outcome = .ok registry) {i : Nat}
    {name : String} {v : Value} (hi : es[i]? = some (.str name, v)) : ∃ node,
      registry.entries[i]? = some (name, node) ∧
        ∀ location', (v.readNode strictness location').outcome = .ok node := by
  obtain ⟨hlength, hentries⟩ := List.forall₂_iff_get.1 (readRegistry_outcome_ok.1 h)
  obtain ⟨hlt, hentry⟩ := List.getElem?_eq_some_iff.1 hi
  obtain ⟨hname, -, hnode⟩ := hentries i hlt (hlength ▸ hlt)
  rw [List.get_eq_getElem, hentry] at hname hnode
  obtain rfl := Value.str.inj hname
  exact ⟨_, List.getElem?_eq_getElem (hlength ▸ hlt), hnode⟩

/-- **References find every name.** Let a document with distinct texts as keys be read as a
registry. A document that refers to one of its names, from whatever place, is read as a reference,
strictly or not; it resolves to the node that stands under the name, and leads to the entry at the
position of the name. Different names never lead to the same entry. And a discriminator that refers
to a name under a tag is read with the name for the tag; a schema with it that is read has it so. -/
theorem references_find_names {strictness : Strictness} {location : String} {es : Entries}
    {registry : Registry} (hes : es.Named)
    (hregistry : ((Value.mapping es).readRegistry strictness location).outcome = .ok registry) :
    (∀ (i : Nat) name v, es[i]? = some (.str name, v) → ∃ node,
      (v.readNode strictness (location ++ "/" ++ name)).outcome = .ok node ∧
      ∀ document : Value, document.RefersTo name → ∃ reference,
        (∀ strictness' location',
          (document.readNode strictness' location').outcome = .ok reference) ∧
        registry.resolve? reference = some (node, some name) ∧
        registry.position? reference = some i) ∧
    (∀ name name' (document document' : Value) reference reference' strictness' location' i,
      document.RefersTo name → document'.RefersTo name' →
      (document.readNode strictness' location').outcome = .ok reference →
      (document'.readNode strictness' location').outcome = .ok reference' →
      registry.position? reference = some i → registry.position? reference' = some i →
      name = name') ∧
    ∀ (fs discriminator : Entries) tag name location',
      fs.get? (.str "discriminator") = some (.mapping discriminator) →
      discriminator.SendsTo tag name → ∃ d,
        (SchemaReader.readDiscriminator fs location').outcome = .ok (some d) ∧
        d.targets.lookup tag = some name ∧ (tag ≠ "" → d.target? (.str tag) = some name) ∧
        ∀ strictness' node, fs.get? (.str "$ref") = none →
          ((Value.mapping fs).readNode strictness' location').outcome = .ok node →
          ∃ s, node = .schema s ∧ s.discriminator = some d := by
  refine ⟨fun i name v hi => ?_, ?_, ?_⟩
  · obtain ⟨node, hentry, hnode⟩ := entry_of_readRegistry hregistry hi
    have hnames : (registry.entries.map Prod.fst).Nodup :=
      .of_map _ (keys_of_readsEntries (readRegistry_outcome_ok.1 hregistry) ▸ hes.nodup)
    have hposition := Registry.position_eq_some hnames hentry
    refine ⟨node, hnode _, fun document hdocument =>
      ⟨.ref name, hdocument.readNode, ?_, hposition⟩⟩
    rw [Registry.resolve?_eq_position, hposition, Option.bind_some, hentry]
    rfl
  · intro name name' document document' reference reference' strictness' location' i hname hname'
      hread hread' hi hi'
    obtain rfl := Except.ok.inj ((hname.readNode _ _).symm.trans hread)
    obtain rfl := Except.ok.inj ((hname'.readNode _ _).symm.trans hread')
    obtain ⟨node, hentry⟩ := Registry.name_of_position hi
    obtain ⟨node', hentry'⟩ := Registry.name_of_position hi'
    exact congrArg Prod.fst (Option.some.inj (hentry.symm.trans hentry'))
  · intro fs discriminator tag name location' hfs hsends
    obtain ⟨d, hd, htarget⟩ := SchemaReader.readDiscriminator_of_sendsTo hfs hsends location'
    refine ⟨d, hd, htarget, fun htag => ?_, fun strictness' node href hnode => ?_⟩
    · rw [Discriminator.target?, if_neg htag, htarget]
      rfl
    · obtain ⟨s, rfl, hs⟩ := SchemaReader.discriminator_of_readNode href hnode
      exact ⟨s, rfl, Except.ok.inj (hs.symm.trans hd)⟩

/-- Schemas under a slash, under its escape, and under the escape of that. -/
def escapedNames : Entries :=
  [(.str "/", .mapping [(.str "type", .str "string")]),
    (.str "~1", .mapping [(.str "type", .str "integer")]), (.str "~01", .bool true)]

/-- A document that chooses among them by kind. -/
def choosesByKind : Entries :=
  [(.str "discriminator", .mapping [(.str "propertyName", .str "kind"),
    (.str "mapping", .mapping [(.str "whole", .str "#/components/~01")])])]

/-- The reference with the escape of the slash leads to the slash, the one with the escape of that
to the escape, and so does the discriminator, from another place. -/
theorem escapedNames_found :
    ∃ registry, ((Value.mapping escapedNames).readRegistry .strict "#").outcome = .ok registry ∧
      (∃ reference, ((Value.mapping [(.str "$ref", .str "#/~1")]).readNode .strict "#").outcome =
          .ok reference ∧
        registry.resolve? reference = some (.schema { type := some .string }, some "/") ∧
        registry.position? reference = some 0) ∧
      (∃ reference, ((Value.mapping [(.str "$ref", .str "~1/~01")]).readNode .lenient "").outcome =
          .ok reference ∧
        registry.resolve? reference = some (.schema { type := some .integer }, some "~1") ∧
        registry.position? reference = some 1) ∧
      ∃ d, (SchemaReader.readDiscriminator choosesByKind "#").outcome = .ok (some d) ∧
        d.target? (.str "whole") = some "~1" := by
  have hnamed : escapedNames.Named := ⟨by simp [escapedNames], by simp [escapedNames]⟩
  have hregistry : ((Value.mapping escapedNames).readRegistry .strict "#").outcome =
      .ok ⟨[("/", .schema { type := some .string }), ("~1", .schema { type := some .integer }),
        ("~01", .schema {})]⟩ := rfl
  have hslash : Pointer.reference "#" "/" = "#/~1" := by decide +kernel
  have hescape : Pointer.reference "~1" "~1" = "~1/~01" := by decide +kernel
  have htarget : Pointer.reference "#/components" "~1" = "#/components/~01" := by decide +kernel
  obtain ⟨hfound, -, hsent⟩ := references_find_names hnamed hregistry
  refine ⟨_, hregistry, ?_, ?_, ?_⟩
  · obtain ⟨node, hnode, hrefers⟩ := hfound 0 "/" _ rfl
    obtain ⟨reference, hread, hresolved, hposition⟩ :=
      hrefers (.mapping [(.str "$ref", .str "#/~1")]) ⟨_, "#", rfl, by rw [hslash]; rfl⟩
    cases hnode
    exact ⟨reference, hread _ _, hresolved, hposition⟩
  · obtain ⟨node, hnode, hrefers⟩ := hfound 1 "~1" _ rfl
    obtain ⟨reference, hread, hresolved, hposition⟩ :=
      hrefers (.mapping [(.str "$ref", .str "~1/~01")]) ⟨_, "~1", rfl, by rw [hescape]; rfl⟩
    cases hnode
    exact ⟨reference, hread _ _, hresolved, hposition⟩
  · have hsends : Entries.SendsTo [(.str "propertyName", .str "kind"),
        (.str "mapping", .mapping [(.str "whole", .str "#/components/~01")])] "whole" "~1" := by
      refine ⟨"kind", _, rfl, rfl, ⟨_, List.mem_singleton_self _, rfl⟩, ?_⟩
      exact List.forall_mem_singleton.2 fun _ => ⟨"#/components", by rw [htarget]⟩
    obtain ⟨d, hd, -, hwhole, -⟩ := hsent choosesByKind _ _ _ "#" rfl hsends
    exact ⟨d, hd, hwhole (by decide)⟩

end DataSchema
