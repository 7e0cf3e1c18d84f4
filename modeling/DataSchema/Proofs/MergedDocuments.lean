import Mathlib.Data.List.Perm.Basic
import DataSchema.Proofs.Loading
import DataSchema.Proofs.StrictReading

set_option autoImplicit false

/-!
# Merged documents

Several documents are loaded as one big document would be: the entries of their sections in a row
are read as a registry, provided that no key stands twice among them. The order of the files has no
influence on whether they are loaded, and none on what stands under a name.

## Main definitions

* `DataSchema.Value.HasSchemas` — the schemas of a document.
* `DataSchema.Store.LoadsSection` — what a file contributes.
* `DataSchema.ReadsEntry` — an entry is read as a named node.

## Main results

* `DataSchema.Store.loadRegistry_outcome_ok` — files are loaded as one big document.
* `DataSchema.readRegistry_outcome_ok` — a registry has the named nodes of the entries, in order.
* `DataSchema.loadRegistry_merges` — when files are loaded, and as what, in whatever order.
-/

namespace DataSchema

/-! ## Lists in step -/

section

variable {α β γ : Type} {R : α → β → Prop}

/-- Each of several things is related to something if the things are related to a list in step. -/
lemma exists_forall₂_iff {xs : List α} :
    (∃ ys, List.Forall₂ R xs ys) ↔ ∀ x ∈ xs, ∃ y, R x y := by
  induction xs with
  | nil => simp
  | cons x xs ih =>
    rw [List.forall_mem_cons, ← ih]
    constructor
    · rintro ⟨_, _ | ⟨hx, hxs⟩⟩
      exact ⟨⟨_, hx⟩, _, hxs⟩
    · rintro ⟨⟨y, hy⟩, ys, hys⟩
      exact ⟨y :: ys, .cons hy hys⟩

/-- What is in step with two lists in a row is two lists in a row. -/
lemma forall₂_append_left_iff {xs xs' : List α} {zs : List β} :
    List.Forall₂ R (xs ++ xs') zs ↔
      ∃ ys ys', zs = ys ++ ys' ∧ List.Forall₂ R xs ys ∧ List.Forall₂ R xs' ys' := by
  constructor
  · intro h
    refine ⟨zs.take xs.length, zs.drop xs.length, (List.take_append_drop _ _).symm, ?_, ?_⟩
    · exact (List.forall₂_take_append zs xs xs' h.flip).flip
    · exact (List.forall₂_drop_append zs xs xs' h.flip).flip
  · rintro ⟨ys, ys', rfl, hys, hys'⟩
    exact List.rel_append hys hys'

/-- Two steps in a row are one step. -/
lemma forall₂_comp_iff {S : β → γ → Prop} {xs : List α} {zs : List γ} :
    (∃ ys, List.Forall₂ R xs ys ∧ List.Forall₂ S ys zs) ↔
      List.Forall₂ (fun x z => ∃ y, R x y ∧ S y z) xs zs := by
  induction xs generalizing zs with
  | nil => simp
  | cons x xs ih =>
    rw [List.forall₂_cons_left_iff]
    simp only [← ih]
    constructor
    · rintro ⟨_, _ | ⟨hx, hxs⟩, _ | ⟨hy, hys⟩⟩
      exact ⟨_, _, ⟨_, hx, hy⟩, ⟨_, hxs, hys⟩, rfl⟩
    · rintro ⟨z, zs, ⟨y, hx, hy⟩, ⟨ys, hxs, hys⟩, rfl⟩
      exact ⟨y :: ys, .cons hx hxs, .cons hy hys⟩

end

/-! ## Sections -/

/-- The schemas of a document, a mapping: those of its components if it has that section, and
otherwise its own entries. -/
inductive Value.HasSchemas : Value → Entries → Prop
  /-- The schemas among the components. -/
  | components {es components schemas : Entries} :
    es.get? (.str "components") = some (.mapping components) →
      Entries.get? components (.str "schemas") = some (.mapping schemas) →
      HasSchemas (.mapping es) schemas
  /-- All entries, there being no schemas among components. -/
  | whole {es : Entries} :
    (∀ components, es.get? (.str "components") = some (.mapping components) →
      Entries.get? components (.str "schemas") = none) →
      HasSchemas (.mapping es) es

/-- The schemas of a document are what is taken from it. -/
lemma schemasSection_eq_ok {document : Value} (source : String) {schemas : Entries} :
    schemasSection document source = .ok schemas ↔ document.HasSchemas schemas := by
  constructor
  · intro h
    unfold schemasSection at h
    split at h
    next es =>
      split at h
      next components hcomponents =>
        split at h
        next hschemas =>
          cases h
          exact .components hcomponents hschemas
        next => cases h
        next hschemas =>
          cases h
          refine .whole fun components' h' => ?_
          cases hcomponents.symm.trans h'
          exact hschemas
      next hcomponents =>
        cases h
        exact .whole fun components h' => absurd h' (hcomponents components)
    next => cases h
  · rintro (⟨hcomponents, hschemas⟩ | hnone)
    · simp only [schemasSection, hcomponents, hschemas]
    · unfold schemasSection
      dsimp only
      split
      next components hcomponents => rw [hnone components hcomponents]
      next => rfl

/-- What a file contributes: the schemas of the document that it is loaded as, a mapping in which no
key stands twice. -/
structure Store.LoadsSection (s : Store) (file : String) (schemas : Entries) : Prop where
  /-- The file is loaded, and its document has the schemas. -/
  document : ∃ document, (Store.load file s).2.outcome = .ok document ∧ document.HasSchemas schemas
  /-- No key stands twice. -/
  keys : KeysApart schemas

/-! ## Entries -/

/-- An entry is read as an item for a registry, wherever it stands. -/
def ReadsItem (strictness : Strictness) (e : Value × Value) (item : Value × RegistryItem) : Prop :=
  ∃ node, (∀ location, (e.2.readNode strictness location).outcome = .ok node) ∧
    item = (e.1, .node node)

/-- An entry is read as a named node, wherever it stands; its key is a text that is not empty. -/
structure ReadsEntry (strictness : Strictness) (e : Value × Value) (named : String × Node) : Prop
    where
  /-- The key is the name. -/
  name : e.1 = .str named.1
  /-- The name is not empty. -/
  nonempty : named.1 ≠ ""
  /-- The value is read as the node. -/
  node : ∀ location, (e.2.readNode strictness location).outcome = .ok named.2

variable {strictness : Strictness}

/-- What is read somewhere is read everywhere. -/
lemma readNode_everywhere {v : Value} {location : String} {node : Node}
    (h : (v.readNode strictness location).outcome = .ok node) (location' : String) :
    (v.readNode strictness location').outcome = .ok node :=
  (v.readNode_elsewhere strictness location location' node).1 h

/-- The schemas of a mapping are read as items in step with its entries. -/
lemma readNodes_outcome_ok {es : Entries} {location : String}
    {items : List (Value × RegistryItem)} :
    (es.readNodes strictness location).outcome = .ok items ↔
      List.Forall₂ (ReadsItem strictness) es items := by
  rw [Entries.readNodes, Traced.outcome_mapM, mapM_eq_ok]
  simp only [Traced.outcome_bind, bind_eq_ok, Traced.outcome_pure, Except.ok.injEq]
  constructor
  · refine List.Forall₂.imp ?_
    rintro e _ ⟨node, hnode, rfl⟩
    exact ⟨node, readNode_everywhere hnode, rfl⟩
  · refine List.Forall₂.imp ?_
    rintro e _ ⟨node, hnode, rfl⟩
    exact ⟨node, hnode _, rfl⟩

/-- Whether a key stands twice is the same for the entries and for what they are read as. -/
lemma keysApart_of_readsItems {es : Entries} {items : List (Value × RegistryItem)}
    (h : List.Forall₂ (ReadsItem strictness) es items) : KeysApart items ↔ KeysApart es := by
  have hkeys : es.map Prod.fst = items.map Prod.fst := by
    refine map_eq_map_of_forall₂ h fun e item hitem => ?_
    obtain ⟨node, -, rfl⟩ := hitem
    rfl
  rw [keysApart_iff_keys, keysApart_iff_keys, hkeys]

/-- An item is fit for a registry when its key is a text that is not empty. -/
lemma checkEntry_eq_ok {k : Value} {node : Node} {named : String × Node} :
    Registry.checkEntry (k, .node node) = .ok named ↔
      k = .str named.1 ∧ named.1 ≠ "" ∧ node = named.2 := by
  obtain ⟨name, node'⟩ := named
  cases k with
  | str key =>
    by_cases hkey : key = ""
    · subst hkey
      simp only [Registry.checkEntry, Value.str.injEq]
      tauto
    · simp only [Registry.checkEntry, Except.ok.injEq, Prod.mk.injEq, Value.str.injEq]
      refine and_congr_right fun hname => ⟨fun h => ⟨hname ▸ hkey, h⟩, And.right⟩
  | _ => simp [Registry.checkEntry]

/-- A mapping of schemas is read by reading its schemas as items and putting these together. -/
lemma readRegistry_outcome_ok_items {es : Entries} {location : String} {registry : Registry} :
    ((Value.mapping es).readRegistry strictness location).outcome = .ok registry ↔
      ∃ items, List.Forall₂ (ReadsItem strictness) es items ∧
        Registry.freeze items = .ok registry := by
  rw [Value.readRegistry]
  simp only [Traced.outcome_bind, bind_eq_ok, readNodes_outcome_ok, Traced.outcome_ofExcept,
    mapError_eq_ok]

/-- Items are put together as a registry when each of them is fit for it. -/
lemma freeze_eq_ok {items : List (Value × RegistryItem)} {registry : Registry} :
    Registry.freeze items = .ok registry ↔
      List.Forall₂ (fun item named => Registry.checkEntry item = .ok named) items
        registry.entries := by
  simp only [Registry.freeze, bind_eq_ok, mapM_eq_ok, pure_eq_ok, Except.ok.injEq]
  constructor
  · rintro ⟨named, hnamed, rfl⟩
    exact hnamed
  · exact fun hnamed => ⟨registry.entries, hnamed, rfl⟩

/-- **A registry of the schemas of a mapping** has the named nodes of the entries, in order. -/
theorem readRegistry_outcome_ok {es : Entries} {location : String} {registry : Registry} :
    ((Value.mapping es).readRegistry strictness location).outcome = .ok registry ↔
      List.Forall₂ (ReadsEntry strictness) es registry.entries := by
  have hitem : (fun e named => ∃ item, ReadsItem strictness e item ∧
      Registry.checkEntry item = .ok named) = ReadsEntry strictness := by
    funext e named
    rw [eq_iff_iff]
    constructor
    · rintro ⟨_, ⟨node, hnode, rfl⟩, hcheck⟩
      obtain ⟨hname, hne, rfl⟩ := checkEntry_eq_ok.1 hcheck
      exact ⟨hname, hne, hnode⟩
    · rintro ⟨hname, hne, hnode⟩
      exact ⟨_, ⟨_, hnode, rfl⟩, checkEntry_eq_ok.2 ⟨hname, hne, rfl⟩⟩
  rw [readRegistry_outcome_ok_items, ← hitem, ← forall₂_comp_iff]
  simp only [freeze_eq_ok]

namespace SchemaEntry

/-- A schema as an item for a registry. -/
def item (e : SchemaEntry) : Value × RegistryItem := (e.name, .node e.node)

/-- No schema has a name that is apart from the names of all. -/
lemma sourceOf?_eq_none {entries : List SchemaEntry} {name : Value} :
    sourceOf? entries name = none ↔ ∀ e ∈ entries.map item, e.1.sameKey name = false := by
  simp [sourceOf?, item]

/-- A section is put after what is already read when its schemas are read and no key stands
twice. -/
lemma ofSection_outcome_ok {source : String} {schemas : Entries} {entries : List SchemaEntry}
    {items : List (Value × RegistryItem)} (hentries : KeysApart (entries.map item)) :
    (∃ entries', (ofSection strictness source schemas entries).outcome = .ok entries' ∧
      entries'.map item = items) ↔
    ∃ added, items = entries.map item ++ added ∧
      List.Forall₂ (ReadsItem strictness) schemas added ∧ KeysApart items := by
  induction schemas generalizing entries with
  | nil =>
    simp only [ofSection, Traced.outcome_pure, Except.ok.injEq, List.forall₂_nil_left_iff]
    constructor
    · rintro ⟨_, rfl, rfl⟩
      exact ⟨[], (List.append_nil _).symm, rfl, hentries⟩
    · rintro ⟨_, rfl, rfl, -⟩
      exact ⟨entries, rfl, (List.append_nil _).symm⟩
  | cons e schemas ih =>
    obtain ⟨name, data⟩ := e
    have hitems : ∀ added, List.Forall₂ (ReadsItem strictness) ((name, data) :: schemas) added ↔
        ∃ node, (∀ location, (data.readNode strictness location).outcome = .ok node) ∧
          ∃ rest, List.Forall₂ (ReadsItem strictness) schemas rest ∧
            added = (name, .node node) :: rest := by
      intro added
      rw [List.forall₂_cons_left_iff]
      constructor
      · rintro ⟨_, rest, ⟨node, hnode, rfl⟩, hrest, rfl⟩
        exact ⟨node, hnode, rest, hrest, rfl⟩
      · rintro ⟨node, hnode, rest, hrest, rfl⟩
        exact ⟨_, rest, ⟨node, hnode, rfl⟩, hrest, rfl⟩
    rw [ofSection]
    cases hsource : sourceOf? entries name with
    | some existing =>
      -- The key stands already among what is read, so that it would stand twice.
      have hthere : ¬ ∀ e ∈ entries.map item, e.1.sameKey name = false := by
        rw [← sourceOf?_eq_none, hsource]
        exact Option.some_ne_none existing
      constructor
      · rintro ⟨_, h, -⟩
        cases h
      · rintro ⟨added, rfl, hadded, hkeys⟩
        obtain ⟨node, -, rest, -, rfl⟩ := (hitems added).1 hadded
        obtain ⟨-, -, hcross⟩ := List.pairwise_append.1 hkeys
        exact absurd (fun e he => hcross e he _ List.mem_cons_self) hthere
    | none =>
      have hnext : ∀ node, KeysApart ((entries ++ [SchemaEntry.mk name node source]).map item) := by
        intro node
        rw [List.map_append, KeysApart, List.pairwise_append]
        refine ⟨hentries, List.pairwise_singleton _ _, fun e he f hf => ?_⟩
        rw [List.map_singleton, List.mem_singleton] at hf
        rw [hf]
        exact sourceOf?_eq_none.1 hsource e he
      simp only [Traced.outcome_bind, bind_eq_ok, hitems]
      constructor
      · rintro ⟨entries', ⟨node, hnode, hrest⟩, hmap⟩
        obtain ⟨rest, rfl, hread, hkeys⟩ := (ih (hnext node)).1 ⟨entries', hrest, hmap⟩
        refine ⟨(name, .node node) :: rest, ?_, ⟨node, readNode_everywhere hnode, rest, hread, rfl⟩,
          hkeys⟩
        rw [List.map_append, List.append_assoc]
        rfl
      · rintro ⟨_, rfl, ⟨node, hnode, rest, hread, rfl⟩, hkeys⟩
        have happend : entries.map item ++ (name, .node node) :: rest =
            (entries ++ [SchemaEntry.mk name node source]).map item ++ rest := by
          rw [List.map_append, List.append_assoc]
          rfl
        obtain ⟨entries', hrest, hmap⟩ := (ih (hnext node)).2 ⟨rest, happend, hread, hkeys⟩
        exact ⟨entries', ⟨node, hnode _, hrest⟩, hmap⟩

end SchemaEntry

namespace Store

/-- A load has no influence on what files contribute. -/
lemma loadsSection_load (s : Store) (file : String) :
    (load file s).1.LoadsSection = s.LoadsSection := by
  funext file' schemas
  simp only [eq_iff_iff]
  constructor
  · rintro ⟨⟨document, hload, hschemas⟩, hkeys⟩
    exact ⟨⟨document, load_load file file' s ▸ hload, hschemas⟩, hkeys⟩
  · rintro ⟨⟨document, hload, hschemas⟩, hkeys⟩
    exact ⟨⟨document, (load_load file file' s).trans hload, hschemas⟩, hkeys⟩

/-- The schemas of a file are put after those that are already read, and then those of the
others. -/
lemma loadEntries_cons_outcome_ok {s : Store} {file : String} {files : List String}
    {entries entries' : List SchemaEntry} :
    (loadEntries strictness (file :: files) entries s).2.outcome = .ok entries' ↔
      ∃ document, (load file s).2.outcome = .ok document ∧
        ∃ schemas, document.HasSchemas schemas ∧
        ∃ entries₁, (SchemaEntry.ofSection strictness file schemas entries).outcome = .ok entries₁ ∧
          (loadEntries strictness files entries₁ (load file s).1).2.outcome = .ok entries' := by
  rw [loadEntries]
  simp only [Loads.outcome_bind, bind_eq_ok, Loads.outcome_lift, Loads.store_lift,
    Traced.outcome_ofExcept, mapError_eq_ok, schemasSection_eq_ok, Traced.outcome_emit,
    exists_const, true_and]

/-- **Files are loaded in a row** when each contributes a section, no key stands twice in what is
already read and the sections, and every entry is read.

**Proof sketch.** Induction on the files. A section is put after what is read before it, whose keys
are apart then; the store that the load leaves finds every document as before. -/
lemma loadEntries_outcome_ok {s : Store} {files : List String} {entries : List SchemaEntry}
    {items : List (Value × RegistryItem)} (hentries : KeysApart (entries.map SchemaEntry.item)) :
    (∃ entries', (loadEntries strictness files entries s).2.outcome = .ok entries' ∧
      entries'.map SchemaEntry.item = items) ↔
    ∃ sections added, List.Forall₂ s.LoadsSection files sections ∧
      items = entries.map SchemaEntry.item ++ added ∧
      List.Forall₂ (ReadsItem strictness) sections.flatten added ∧ KeysApart items := by
  induction files generalizing entries s with
  | nil =>
    simp only [loadEntries, Loads.outcome_pure, Except.ok.injEq, List.forall₂_nil_left_iff]
    constructor
    · rintro ⟨_, rfl, rfl⟩
      exact ⟨[], [], rfl, (List.append_nil _).symm, .nil, hentries⟩
    · rintro ⟨_, _, rfl, rfl, h, -⟩
      rw [List.flatten_nil, List.forall₂_nil_left_iff] at h
      exact ⟨entries, rfl, by rw [h, List.append_nil]⟩
  | cons file files ih =>
    simp only [loadEntries_cons_outcome_ok]
    constructor
    · rintro ⟨entries', ⟨document, hload, schemas, hschemas, entries₁, hsection, hrest⟩, hmap⟩
      obtain ⟨added, hmap₁, hadded, hkeys₁⟩ :=
        (SchemaEntry.ofSection_outcome_ok hentries).1 ⟨entries₁, hsection, rfl⟩
      obtain ⟨sections, rest, hsections, rfl, hread, hkeys⟩ := (ih hkeys₁).1 ⟨entries', hrest, hmap⟩
      rw [loadsSection_load] at hsections
      rw [hmap₁] at hkeys hkeys₁ ⊢
      have hschemas₁ : KeysApart schemas :=
        (keysApart_of_readsItems hadded).1 (List.pairwise_append.1 hkeys₁).2.1
      exact ⟨schemas :: sections, added ++ rest,
        .cons ⟨⟨document, hload, hschemas⟩, hschemas₁⟩ hsections, List.append_assoc _ _ _,
        List.rel_append hadded hread, hkeys⟩
    · rintro ⟨_, _, hfiles, rfl, hread, hkeys⟩
      obtain ⟨schemas, sections, ⟨⟨document, hload, hschemas⟩, -⟩, hsections, rfl⟩ :=
        List.forall₂_cons_left_iff.1 hfiles
      obtain ⟨added, rest, rfl, hadded, hrest⟩ := forall₂_append_left_iff.1 hread
      have hbefore : KeysApart (entries.map SchemaEntry.item ++ added) := by
        rw [← List.append_assoc] at hkeys
        exact (List.pairwise_append.1 hkeys).1
      obtain ⟨entries₁, hsection, hmap₁⟩ :=
        (SchemaEntry.ofSection_outcome_ok hentries).2 ⟨added, rfl, hadded, hbefore⟩
      have happend : entries.map SchemaEntry.item ++ (added ++ rest) =
          entries₁.map SchemaEntry.item ++ rest := by
        rw [hmap₁, List.append_assoc]
      rw [← hmap₁] at hbefore
      rw [← loadsSection_load s file] at hsections
      obtain ⟨entries', hfiles', hmap⟩ :=
        (ih hbefore).2 ⟨sections, rest, hsections, happend, hrest, hkeys⟩
      exact ⟨entries', ⟨document, hload, schemas, hschemas, entries₁, hsection, hfiles'⟩, hmap⟩

/-- **Files are loaded as one big document**: each contributes a section, no key stands twice among
the sections, and their entries in a row are read as the registry. -/
lemma loadRegistry_outcome_ok {s : Store} {files : List String} {registry : Registry} :
    (loadRegistry strictness files s).2.outcome = .ok registry ↔
      ∃ sections : List Entries, List.Forall₂ s.LoadsSection files sections ∧
        KeysApart sections.flatten ∧ ∀ location,
          ((Value.mapping sections.flatten).readRegistry strictness location).outcome =
            .ok registry := by
  have hitems : (loadRegistry strictness files s).2.outcome = .ok registry ↔
      ∃ items, (∃ entries, (loadEntries strictness files [] s).2.outcome = .ok entries ∧
        entries.map SchemaEntry.item = items) ∧ Registry.freeze items = .ok registry := by
    rw [loadRegistry]
    simp only [Loads.outcome_bind, bind_eq_ok, Loads.outcome_lift, Traced.outcome_ofExcept,
      mapError_eq_ok]
    constructor
    · rintro ⟨entries, hentries, hfreeze⟩
      exact ⟨_, ⟨entries, hentries, rfl⟩, hfreeze⟩
    · rintro ⟨_, ⟨entries, hentries, rfl⟩, hfreeze⟩
      exact ⟨entries, hentries, hfreeze⟩
  have hnone : KeysApart (([] : List SchemaEntry).map SchemaEntry.item) := List.Pairwise.nil
  simp only [hitems, readRegistry_outcome_ok_items, forall_const, loadEntries_outcome_ok hnone]
  constructor
  · rintro ⟨items, ⟨sections, _, hsections, rfl, hread, hkeys⟩, hfreeze⟩
    exact ⟨sections, hsections, (keysApart_of_readsItems hread).1 hkeys, _, hread, hfreeze⟩
  · rintro ⟨sections, hsections, hkeys, items, hread, hfreeze⟩
    exact ⟨items, ⟨sections, items, hsections, rfl, hread, (keysApart_of_readsItems hread).2 hkeys⟩,
      hfreeze⟩

/-- A file contributes one section at most. -/
lemma LoadsSection.unique {s : Store} {file : String} {schemas schemas' : Entries}
    (h : s.LoadsSection file schemas) (h' : s.LoadsSection file schemas') : schemas = schemas' := by
  obtain ⟨document, hload, hschemas⟩ := h.document
  obtain ⟨document', hload', hschemas'⟩ := h'.document
  cases hload.symm.trans hload'
  rw [← schemasSection_eq_ok file] at hschemas hschemas'
  exact Except.ok.inj (hschemas.symm.trans hschemas')

/-- No key stands twice in what files contribute. -/
lemma keysApart_of_loadsSection {s : Store} {files : List String} {sections : List Entries}
    (h : List.Forall₂ s.LoadsSection files sections) : ∀ es ∈ sections, KeysApart es := by
  induction h with
  | nil => exact fun es hes => nomatch hes
  | cons hfile _ ih => exact List.forall_mem_cons.2 ⟨hfile.keys, ih⟩

end Store

/-! ## Merging -/

/-- Sections can be merged: every key is a text that is not empty, no key stands in two sections,
and every entry is read wherever it stands. -/
structure Mergeable (strictness : Strictness) (sections : List Entries) : Prop where
  /-- Keys are texts that are not empty. -/
  names : ∀ e ∈ sections.flatten, ∃ name, name ≠ "" ∧ e.1 = .str name
  /-- No key stands in two sections. -/
  apart : sections.Pairwise fun es fs => ∀ e ∈ es, ∀ f ∈ fs, e.1.sameKey f.1 = false
  /-- Entries are read. -/
  read : ∀ e ∈ sections.flatten, ∃ node, ∀ location,
    (e.2.readNode strictness location).outcome = .ok node

/-- Sections in each of which no key stands twice can be merged when no key stands twice in all of
them and their entries are read as named nodes. -/
lemma mergeable_iff {sections : List Entries} (hkeys : ∀ es ∈ sections, KeysApart es) :
    Mergeable strictness sections ↔ KeysApart sections.flatten ∧
      ∃ registry : Registry, List.Forall₂ (ReadsEntry strictness) sections.flatten
        registry.entries := by
  have hregistry : (∃ registry : Registry, List.Forall₂ (ReadsEntry strictness) sections.flatten
      registry.entries) ↔ ∀ e ∈ sections.flatten, ∃ named, ReadsEntry strictness e named := by
    rw [← exists_forall₂_iff]
    exact ⟨fun ⟨registry, h⟩ => ⟨registry.entries, h⟩, fun ⟨named, h⟩ => ⟨⟨named⟩, h⟩⟩
  rw [hregistry, KeysApart, List.pairwise_flatten]
  constructor
  · rintro ⟨hnames, hapart, hread⟩
    refine ⟨⟨hkeys, hapart⟩, fun e he => ?_⟩
    obtain ⟨name, hne, hname⟩ := hnames e he
    obtain ⟨node, hnode⟩ := hread e he
    exact ⟨(name, node), hname, hne, hnode⟩
  · rintro ⟨⟨-, hapart⟩, hread⟩
    refine ⟨fun e he => ?_, hapart, fun e he => ?_⟩
    · obtain ⟨named, hnamed⟩ := hread e he
      exact ⟨named.1, hnamed.nonempty, hnamed.name⟩
    · obtain ⟨named, hnamed⟩ := hread e he
      exact ⟨named.2, hnamed.node⟩

/-- The keys of entries are the names of what they are read as. -/
lemma keys_of_readsEntries {es : Entries} {named : List (String × Node)}
    (h : List.Forall₂ (ReadsEntry strictness) es named) :
    es.map Prod.fst = (named.map Prod.fst).map .str := by
  rw [List.map_map]
  exact map_eq_map_of_forall₂ h fun e x hentry => hentry.name

/-- No key stands twice exactly when no name does. -/
lemma keysApart_iff_nodup {es : Entries} {named : List (String × Node)}
    (h : List.Forall₂ (ReadsEntry strictness) es named) :
    KeysApart es ↔ (named.map Prod.fst).Nodup := by
  rw [keysApart_iff_keys, keys_of_readsEntries h, List.pairwise_map, List.Nodup]
  simp only [sameKey_eq_false]

/-- The order of named things has no influence on what is found under a name, if no name stands
twice. -/
lemma lookup_of_perm {α : Type} {ps qs : List (String × α)} (h : ps.Perm qs)
    (hnames : (ps.map Prod.fst).Nodup) (name : String) : ps.lookup name = qs.lookup name := by
  have hnames' : (qs.map Prod.fst).Nodup := (h.map Prod.fst).nodup_iff.1 hnames
  refine Option.ext fun a => ⟨fun ha => ?_, fun ha => ?_⟩
  · exact lookup_eq_of_nodup hnames' (h.mem_iff.1 (mem_of_lookup ha))
  · exact lookup_eq_of_nodup hnames (h.mem_iff.2 (mem_of_lookup ha))

/-- Files in another order are loaded as the same named nodes in another order. -/
lemma loadRegistry_perm {s : Store} {files files' : List String} (hperm : files.Perm files')
    {registry : Registry} (h : (Store.loadRegistry strictness files s).2.outcome = .ok registry) :
    ∃ registry', (Store.loadRegistry strictness files' s).2.outcome = .ok registry' ∧
      ∀ name, registry.get? name = registry'.get? name := by
  obtain ⟨sections, hsections, hkeys, hread⟩ := Store.loadRegistry_outcome_ok.1 h
  have hentries := readRegistry_outcome_ok.1 (hread "")
  obtain ⟨sections', hsections', hpermuted⟩ := List.perm_comp_forall₂ hperm.symm hsections
  obtain ⟨named, hnamed, hpermNamed⟩ := List.perm_comp_forall₂ hpermuted.flatten hentries
  have hnodup : (registry.entries.map Prod.fst).Nodup := (keysApart_iff_nodup hentries).1 hkeys
  have hkeys' : KeysApart sections'.flatten :=
    (keysApart_iff_nodup hnamed).2 ((hpermNamed.map Prod.fst).nodup_iff.2 hnodup)
  refine ⟨⟨named⟩, Store.loadRegistry_outcome_ok.2 ⟨sections', hsections', hkeys', fun location =>
    readRegistry_outcome_ok.2 hnamed⟩, fun name => ?_⟩
  exact lookup_of_perm hpermNamed.symm hnodup name

/-- **Merging documents.** Files are loaded exactly if each of them contributes a section and the
sections can be merged. What they are loaded as is what the sections in a row are read as, wherever
they stand, as one mapping. Files in another order are loaded or not alike, and the same node stands
under every name.

**Proof sketch.** Along the files, a section is put after what is read before it, which stands for
the sections before it; so the checks that are made one by one come to one check of all sections.
That check concerns pairs of entries and single entries, whose order does not count. -/
theorem loadRegistry_merges (s : Store) (strictness : Strictness) (files : List String) :
    ((∃ registry, (Store.loadRegistry strictness files s).2.outcome = .ok registry) ↔
      ∃ sections, List.Forall₂ s.LoadsSection files sections ∧ Mergeable strictness sections) ∧
    (∀ registry sections, (Store.loadRegistry strictness files s).2.outcome = .ok registry →
      List.Forall₂ s.LoadsSection files sections → ∀ location,
        ((Value.mapping sections.flatten).readRegistry strictness location).outcome =
          .ok registry) ∧
    ∀ files' : List String, files.Perm files' →
      ((∃ registry, (Store.loadRegistry strictness files s).2.outcome = .ok registry) ↔
        ∃ registry, (Store.loadRegistry strictness files' s).2.outcome = .ok registry) ∧
      ∀ registry registry', (Store.loadRegistry strictness files s).2.outcome = .ok registry →
        (Store.loadRegistry strictness files' s).2.outcome = .ok registry' →
          ∀ name, registry.get? name = registry'.get? name := by
  refine ⟨?_, fun registry sections h hsections => ?_, fun files' hperm => ⟨⟨?_, ?_⟩, ?_⟩⟩
  · simp only [Store.loadRegistry_outcome_ok, readRegistry_outcome_ok, forall_const]
    rw [exists_comm]
    refine exists_congr fun sections => ?_
    rw [exists_and_left]
    refine and_congr_right fun hsections => ?_
    rw [exists_and_left]
    exact (mergeable_iff (Store.keysApart_of_loadsSection hsections)).symm
  · obtain ⟨sections', hsections', -, hread⟩ := Store.loadRegistry_outcome_ok.1 h
    have hunique : Relator.RightUnique s.LoadsSection := fun _ _ _ h h' => h.unique h'
    rw [List.right_unique_forall₂' hunique hsections hsections']
    exact hread
  · rintro ⟨registry, h⟩
    obtain ⟨registry', h', -⟩ := loadRegistry_perm hperm h
    exact ⟨registry', h'⟩
  · rintro ⟨registry, h⟩
    obtain ⟨registry', h', -⟩ := loadRegistry_perm hperm.symm h
    exact ⟨registry', h'⟩
  · intro registry registry' h h'
    obtain ⟨registry'', h'', hget⟩ := loadRegistry_perm hperm h
    cases h'.symm.trans h''
    exact hget

/-- A path of one letter that is no slash has one part. -/
lemma splitOn_letter {path : String} (hsome : String.Pos.Raw.atEnd path 0 = false)
    (hletter : String.Pos.Raw.get path 0 ≠ '/')
    (hend : String.Pos.Raw.atEnd path (String.Pos.Raw.next path 0) = true)
    (hwhole : String.Pos.Raw.extract path 0 (String.Pos.Raw.next path 0) = path) :
    path.splitOn "/" = [path] := by
  have hslash : String.Pos.Raw.get "/" 0 = '/' := by decide
  have hstart : String.Pos.Raw.unoffsetBy 0 0 = 0 := rfl
  rw [String.splitOn, if_neg (by decide), String.splitOnAux, if_neg (by simp [hsome]), hslash,
    if_neg (by simpa using hletter), hstart, String.splitOnAux, if_pos hend, hwhole]
  rfl

/-- The sizes that a document defines. -/
def sizesSection : Entries := [(.str "Size", .mapping [(.str "type", .str "integer")])]

/-- The boxes that another document defines by the sizes. -/
def boxesSection : Entries := [(.str "Box", .mapping [(.str "$ref", .str "#/Size")])]

/-- A store that keeps both documents, one of them with its schemas among the components. -/
def warehouse : Store where
  directory := ⟨[(["s"], ""), (["b"], "")], []⟩
  cache := [(["s"], .mapping sizesSection), (["b"], .mapping [(.str "components",
    .mapping [(.str "schemas", .mapping boxesSection)])])]
  caching := true

/-- Both documents are loaded in either order, as one document with both schemas would be; the one
with the sizes is not loaded twice. -/
theorem warehouse_loaded :
    ∃ registry, (Store.loadRegistry .strict ["s", "b"] warehouse).2.outcome =
        .ok registry ∧
      ((Value.mapping (sizesSection ++ boxesSection)).readRegistry .strict "#").outcome =
        .ok registry ∧
      (∃ registry', (Store.loadRegistry .strict ["b", "s"] warehouse).2.outcome =
        .ok registry' ∧ ∀ name, registry.get? name = registry'.get? name) ∧
      ¬ ∃ registry', (Store.loadRegistry .strict ["s", "s"] warehouse).2.outcome =
        .ok registry' := by
  have hcomponents : sizesSection.get? (.str "components") = none :=
    Entries.get?_eq_none (by simp [sizesSection])
  have hsizes : warehouse.LoadsSection "s" sizesSection := by
    have hload : (Store.load "s" warehouse).2.outcome = .ok (.mapping sizesSection) := by
      rw [Store.load_outcome, DocumentPath.ofText,
        splitOn_letter (by decide) (by decide) (by decide) (by decide)]
      rfl
    exact ⟨⟨_, hload, .whole (by simp [hcomponents])⟩, by simp [KeysApart, sizesSection]⟩
  have hboxes : warehouse.LoadsSection "b" boxesSection := by
    have hload : (Store.load "b" warehouse).2.outcome = .ok (.mapping [(.str "components",
        .mapping [(.str "schemas", .mapping boxesSection)])]) := by
      rw [Store.load_outcome, DocumentPath.ofText,
        splitOn_letter (by decide) (by decide) (by decide) (by decide)]
      rfl
    exact ⟨⟨_, hload, .components rfl rfl⟩, by simp [KeysApart, boxesSection]⟩
  have hsections : List.Forall₂ warehouse.LoadsSection ["s", "b"]
      [sizesSection, boxesSection] := .cons hsizes (.cons hboxes .nil)
  have hmergeable : Mergeable .strict [sizesSection, boxesSection] := by
    refine ⟨?_, ?_, ?_⟩
    · simp [sizesSection, boxesSection]
    · simp [sizesSection, boxesSection, sameKey_eq_false]
    · simp only [sizesSection, boxesSection, List.flatten_cons, List.flatten_nil, List.append_nil,
        List.cons_append, List.nil_append, List.forall_mem_cons]
      exact ⟨⟨_, fun _ => rfl⟩, ⟨_, fun _ => rfl⟩, List.forall_mem_nil _⟩
  obtain ⟨hloaded, hmerged, horder⟩ := loadRegistry_merges warehouse .strict ["s", "b"]
  obtain ⟨registry, h⟩ := hloaded.2 ⟨_, hsections, hmergeable⟩
  obtain ⟨halike, hget⟩ := horder ["b", "s"] (.swap _ _ _)
  obtain ⟨registry', h'⟩ := halike.1 ⟨registry, h⟩
  refine ⟨registry, h, hmerged registry _ h hsections "#", ⟨registry', h', hget _ _ h h'⟩, ?_⟩
  intro htwice
  obtain ⟨sections, htwo, hmergeable'⟩ :=
    (loadRegistry_merges warehouse .strict ["s", "s"]).1.1 htwice
  have hunique : Relator.RightUnique warehouse.LoadsSection := fun _ _ _ h h' => h.unique h'
  obtain rfl := List.right_unique_forall₂' hunique htwo (.cons hsizes (.cons hsizes .nil))
  have hsame := hmergeable'.apart
  simp [sizesSection, sameKey_eq_false] at hsame

end DataSchema
