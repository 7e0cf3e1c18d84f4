import DataSchema.Proofs.CheckStops
import DataSchema.Proofs.SchemaPositions

set_option autoImplicit false

/-!
# Reading as a gate

What gets past the reader of schemas. The keywords that schemas are built around are checked, so
that they hold values of their kinds in every schema that is read; the others are handed on, so that
they do exactly if they did in the document. A document that is not read is refused with a
definition error, unless one of its patterns asks for more than a pattern can do.

## Main definitions

* `DataSchema.Keywords.Annotated` — every keyword of a schema holds a value of its kind.
* `DataSchema.Entries.CopiesAnnotated` — the keywords that are handed on hold values of their kinds.
* `DataSchema.Entries.Escapes` — a pattern that makes a reader stop without a definition error.
* `DataSchema.PassesGate` — a node of annotated schemas, or a definition error.

## Main results

* `DataSchema.SchemaReader.annotated_of_readNode` — the schemas of a node that is read.
* `DataSchema.SchemaReader.readNode_failsOnly` — why a node is not read.
* `DataSchema.readNode_gate` — which documents pass the gate.
-/

namespace DataSchema

/-! ## Annotations -/

/-- Every keyword of a schema holds a value of its kind: beyond those on which checks and casts
rely, types are known, flags are truth values, and titles and descriptions are texts. -/
structure Keywords.Annotated (s : Schema) : Prop extends s.WellTyped where
  /-- The type is known. -/
  type : ∀ t, s.type = some t → t ∈ TypeName.known
  /-- Flags are truth values. -/
  flag : ∀ v ∈ [s.nullable, s.uniqueItems, s.exclusiveMinimum, s.exclusiveMaximum],
    ∃ b, v = .bool b
  /-- Remarks are texts. -/
  remark : ∀ v ∈ [s.title, s.description], v = .null ∨ ∃ text, v = .str text

/-- The keywords of a schema mapping that are handed on unchecked hold values of their kinds. -/
structure Entries.CopiesAnnotated (es : Entries) : Prop where
  /-- The format is a name. -/
  format : ∀ v, es.get? (.str "format") = some v → v = .null ∨ ∃ name, v = .str name
  /-- Counts are whole numbers. -/
  count : ∀ keyword ∈ ["minLength", "maxLength", "minProperties", "maxProperties", "minItems",
    "maxItems"], ∀ v, es.get? (.str keyword) = some v → v = .null ∨ ∃ n, v = .int n
  /-- Bounds and divisors are numbers. -/
  bound : ∀ keyword ∈ ["minimum", "maximum", "multipleOf"], ∀ v,
    es.get? (.str keyword) = some v → v = .null ∨ v.isNumber = true
  /-- Flags are truth values. -/
  flag : ∀ keyword ∈ ["nullable", "uniqueItems", "exclusiveMinimum", "exclusiveMaximum"], ∀ v,
    es.get? (.str keyword) = some v → ∃ b, v = .bool b
  /-- Remarks are texts. -/
  remark : ∀ keyword ∈ ["title", "description"], ∀ v,
    es.get? (.str keyword) = some v → v = .null ∨ ∃ text, v = .str text
  /-- The record type is named by a text. -/
  targetType : ∀ v, (es.get? (.str "x-target-type")).or (es.get? (.str "x-struct")) = some v →
    v = .null ∨ ∃ name, v = .str name

/-- The pattern of a schema mapping is a text that cannot be used as a pattern, although it is not
malformed. -/
def Entries.Escapes (es : Entries) (fault : PatternFault) : Prop :=
  ∃ p, es.get? (.str "pattern") = some (.str p) ∧ CompiledPattern.ofText p = .error fault ∧
    ∀ flaw place, fault ≠ .malformed flaw place

/-- A node holds a schema: it is the schema, or a schema with a node below it that holds it.
References are not followed. -/
inductive Node.HoldsSchema : Node → Schema → Prop
  /-- A schema holds itself. -/
  | here {s : Schema} : HoldsSchema (.schema s) s
  /-- A schema holds what a node below it holds. -/
  | inside {s t : Schema} {c : Node} : c ∈ s.children → HoldsSchema c t → HoldsSchema (.schema s) t

/-- What holds of a schema and of all that are held below it holds of all that it holds. -/
lemma Node.HoldsSchema.forall_schema {P : Schema → Prop} {s : Schema} :
    (∀ t, (Node.schema s).HoldsSchema t → P t) ↔
      P s ∧ ∀ c ∈ s.children, ∀ t, c.HoldsSchema t → P t := by
  constructor
  · exact fun h => ⟨h s .here, fun c hc t ht => h t (.inside hc ht)⟩
  · rintro ⟨hs, hbelow⟩ t ht
    cases ht with
    | here => exact hs
    | inside hc ht => exact hbelow _ hc t ht

/-- What comes of reading passes the gate: a node of which every schema is annotated, or a
definition error about the document. -/
def PassesGate (x : Except ReadError Node) : Prop :=
  (∃ node, x = .ok node ∧ ∀ s, node.HoldsSchema s → s.Annotated) ∨
    ∃ e, x = .error (.definition e) ∧ ∀ location, e ≠ .tooNested location

/-- What holds of the members of two lists in step alike holds of all members alike. -/
lemma forall_mem_iff_of_forall₂ {α β : Type} {R : α → β → Prop} {P : α → Prop} {Q : β → Prop}
    {xs : List α} {ys : List β} (h : List.Forall₂ R xs ys) (hR : ∀ x y, R x y → (Q y ↔ P x)) :
    (∀ y ∈ ys, Q y) ↔ ∀ x ∈ xs, P x := by
  induction h with
  | nil => simp
  | cons hxy _ ih => rw [List.forall_mem_cons, List.forall_mem_cons, hR _ _ hxy, ih]

namespace SchemaReader

/-! ## Named things -/

/-- A name is put into related lists of named things alike. -/
lemma forall₂_putNamed {α β : Type} {R : α → β → Prop} {xs : List (String × α)}
    {ys : List (String × β)} (h : List.Forall₂ (fun x y => x.1 = y.1 ∧ R x.2 y.2) xs ys)
    (name : String) {a : α} {b : β} (hab : R a b) :
    List.Forall₂ (fun x y => x.1 = y.1 ∧ R x.2 y.2) (putNamed xs name a) (putNamed ys name b) := by
  induction h with
  | nil => exact .cons ⟨rfl, hab⟩ .nil
  | @cons x y xs ys hxy hrest ih =>
    unfold putNamed
    by_cases hx : x.1 = name
    · rw [if_pos hx, if_pos (hxy.1 ▸ hx)]
      exact .cons ⟨rfl, hab⟩ hrest
    · rw [if_neg hx, if_neg (hxy.1 ▸ hx)]
      exact .cons hxy ih

/-- Related lists of named things put over related ones stay related. -/
lemma forall₂_foldl_putNamed {α β : Type} {R : α → β → Prop} {xs us : List (String × α)}
    {ys vs : List (String × β)} (h : List.Forall₂ (fun x y => x.1 = y.1 ∧ R x.2 y.2) xs ys)
    (hacc : List.Forall₂ (fun x y => x.1 = y.1 ∧ R x.2 y.2) us vs) :
    List.Forall₂ (fun x y => x.1 = y.1 ∧ R x.2 y.2)
      (xs.foldl (fun acc x => putNamed acc x.1 x.2) us)
      (ys.foldl (fun acc y => putNamed acc y.1 y.2) vs) := by
  induction h generalizing us vs with
  | nil => exact hacc
  | cons hxy _ ih =>
    rw [List.foldl_cons, List.foldl_cons, hxy.1]
    exact ih (forall₂_putNamed hacc _ hxy.2)

/-- Related lists of named things stay related when each is put over those before it. -/
lemma forall₂_ofNamed {α β : Type} {R : α → β → Prop} {xs : List (String × α)}
    {ys : List (String × β)} (h : List.Forall₂ (fun x y => x.1 = y.1 ∧ R x.2 y.2) xs ys) :
    List.Forall₂ (fun x y => x.1 = y.1 ∧ R x.2 y.2) (ofNamed xs) (ofNamed ys) :=
  forall₂_foldl_putNamed h .nil

/-! ## What is read -/

/-- A document is read as a node somewhere. -/
def ReadsSomewhere (child : ChildReader) (d : Value) (node : Node) : Prop :=
  ∃ location, (child d location).outcome = .ok node

section

variable {child : ChildReader} {es : Entries} {location : String}

/-- Types that are read are known. -/
lemma mem_known_of_readType {type : Option TypeName}
    (h : (readType es location).outcome = .ok type) {t : TypeName} (ht : type = some t) :
    t ∈ TypeName.known := by
  have hknown : ∀ name, TypeName.ofText name ∈ TypeName.known ∨
      TypeName.ofText name = .unknown name := by
    intro name
    unfold TypeName.ofText
    cases hfound : TypeName.known.find? fun t => t.text == name with
    | none => exact .inr rfl
    | some t => exact .inl (List.mem_of_find?_eq_some hfound)
  subst ht
  unfold readType at h
  split at h
  next => cases h
  next => cases h
  next v _ _ =>
    dsimp only at h
    split at h
    next name _ _ =>
      split at h
      next => cases h
      next hother =>
        rcases hknown name with hmem | hunknown
        · rwa [← Option.some.inj (Except.ok.inj h)]
        · exact absurd hunknown (hother name)
    next => cases h

/-- Patterns that are read can be compiled. -/
lemma compiles_of_readPattern {pattern : Value}
    (h : (readPattern es location).outcome = .ok pattern) :
    pattern = .null ∨ ∃ p compiled, pattern = .str p ∧ CompiledPattern.ofText p = .ok compiled := by
  unfold readPattern at h
  split at h
  · exact .inl (Except.ok.inj h).symm
  next p _ =>
    split at h
    next compiled hp => exact .inr ⟨p, compiled, (Except.ok.inj h).symm, hp⟩
    next => cases h
    next => cases h
  next => cases h

/-- Required names that are read are texts. -/
lemma texts_of_readRequired {required : List Value}
    (h : (readRequired es location).outcome = .ok required) :
    ∀ n ∈ required, ∃ name, n = .str name := by
  unfold readRequired at h
  split at h
  · cases h
    exact fun n hn => nomatch hn
  · split at h
    next hall =>
      cases h
      intro n hn
      have htext := List.all_eq_true.1 hall n hn
      cases n with
      | str name => exact ⟨name, rfl⟩
      | _ => cases htext
    next => cases h
  next => cases h

/-- Declared properties are read in step with their documents. -/
lemma forall₂_of_readProperties {properties : Option (List (String × Node))}
    (h : (readProperties child es location).outcome = .ok properties) :
    List.Forall₂ (ReadsSomewhere child) ((ofNamed es.declaredDocuments).map Prod.snd)
      ((properties.getD []).map Prod.snd) := by
  unfold readProperties at h
  split at h
  next hnone =>
    cases h
    rw [Entries.declaredDocuments, hnone]
    exact .nil
  next ps hps =>
    simp only [Traced.outcome_bind, Traced.outcome_mapM, bind_eq_ok, mapM_eq_ok,
      Traced.outcome_pure, Except.ok.injEq] at h
    obtain ⟨read, hread, rfl⟩ := h
    rw [Entries.declaredDocuments_eq hps, Option.getD_some, List.forall₂_map_left_iff,
      List.forall₂_map_right_iff]
    refine (forall₂_ofNamed ?_).imp fun _ _ h => h.2
    rw [List.forall₂_map_left_iff]
    refine hread.imp ?_
    rintro p _ ⟨node, hnode, rfl⟩
    exact ⟨rfl, _, hnode⟩
  next => cases h

/-- The rule for undeclared properties is read from its document. -/
lemma forall₂_of_readAdditional {additional : Additional Node}
    (h : (readAdditional child es location).outcome = .ok additional) :
    List.Forall₂ (ReadsSomewhere child) es.additionalDocument.toList additional.node?.toList := by
  unfold readAdditional at h
  split at h
  next hnone =>
    cases h
    rw [Entries.additionalDocument, hnone]
    exact .nil
  next allowed hflag =>
    cases h
    rw [Entries.additionalDocument, hflag]
    exact .nil
  next v hother hv =>
    simp only [Traced.outcome_bind, bind_eq_ok, Traced.outcome_pure, Except.ok.injEq] at h
    obtain ⟨node, hnode, rfl⟩ := h
    rw [Entries.additionalDocument, hv]
    cases v with
    | bool allowed => exact absurd rfl (hother allowed)
    | _ => exact .cons ⟨_, hnode⟩ .nil

/-- A keyword that contains one schema is read from its document. -/
lemma forall₂_of_readChild {keyword : String} {node? : Option Node}
    (h : (readChild child es keyword location).outcome = .ok node?) :
    List.Forall₂ (ReadsSomewhere child) (es.get? (.str keyword)).toList node?.toList := by
  unfold readChild at h
  split at h
  next hnone =>
    cases h
    rw [hnone]
    exact .nil
  next v hv =>
    simp only [Traced.outcome_bind, bind_eq_ok, Traced.outcome_pure, Except.ok.injEq] at h
    obtain ⟨node, hnode, rfl⟩ := h
    rw [hv]
    exact .cons ⟨_, hnode⟩ .nil

/-- A keyword that contains several schemas is read in step with its documents. -/
lemma forall₂_of_readComposition {keyword : String} {nodes? : Option (List Node)}
    (h : (readComposition child es keyword location).outcome = .ok nodes?) :
    List.Forall₂ (ReadsSomewhere child) (es.listedDocuments keyword) (nodes?.getD []) := by
  unfold readComposition at h
  dsimp only at h
  split at h
  next hnone =>
    cases h
    rw [Entries.listedDocuments, hnone]
    exact .nil
  next => cases h
  next items _ hitems =>
    simp only [Traced.outcome_bind, Traced.outcome_mapM, bind_eq_ok, mapM_eq_ok,
      Traced.outcome_pure, Except.ok.injEq] at h
    obtain ⟨nodes, hnodes, rfl⟩ := h
    rw [Entries.listedDocuments_eq hitems, Option.getD_some, ← List.zipIdx_map_fst 0 items,
      List.forall₂_map_left_iff]
    exact hnodes.imp fun item node hnode => ⟨_, hnode⟩
  next => cases h

/-! ## What is handed on -/

/-- A keyword that is handed on has a property that absence has exactly if the document gives it no
other value. -/
lemma kept_iff (es : Entries) (P : Value → Prop) {absent : Value} (habsent : P absent)
    (keyword : String) :
    P (kept es keyword absent) ↔ ∀ v, es.get? (.str keyword) = some v → P v := by
  unfold kept
  cases h : es.get? (.str keyword) with
  | none => simpa using habsent
  | some v => simp

/-- Several keywords that are handed on have a property that absence has exactly if the document
gives them no other values. -/
lemma forall_kept_iff (es : Entries) (P : Value → Prop) {absent : Value} (habsent : P absent)
    (keywords : List String) :
    (∀ v ∈ keywords.map fun keyword => kept es keyword absent, P v) ↔
      ∀ keyword ∈ keywords, ∀ v, es.get? (.str keyword) = some v → P v := by
  rw [List.forall_mem_map]
  exact forall₂_congr fun keyword _ => kept_iff es P habsent keyword

/-- The record type is named by a text exactly if the document gives it no other name. -/
lemma readTarget_iff : (∀ tag, readTarget es = .tagged tag → ∃ name, tag = .str name) ↔
    ∀ v, (es.get? (.str "x-target-type")).or (es.get? (.str "x-struct")) = some v →
      v = .null ∨ ∃ name, v = .str name := by
  unfold readTarget
  generalize (es.get? (.str "x-target-type")).or (es.get? (.str "x-struct")) = tag?
  cases tag? with
  | none => simp
  | some v => cases v <;> simp

/-- **A schema that is read**: the nodes below it are read from the retained documents in step, and
its keywords hold values of their kinds exactly if those do that are handed on. -/
lemma readSchema_ok {strictness : Strictness} {s : Schema}
    (h : (readSchema strictness child es location).outcome = .ok s) :
    List.Forall₂ (ReadsSomewhere child) es.retained s.children ∧
      (s.Annotated ↔ es.CopiesAnnotated) := by
  simp only [readSchema, Traced.outcome_bind, bind_eq_ok, Traced.outcome_pure,
    Except.ok.injEq] at h
  obtain ⟨type, htype, enum, -, pattern, hpattern, properties, hproperties, required, hrequired,
    additional, hadditional, items, hitems, oneOf, honeOf, anyOf, hanyOf, allOf, hallOf, notSchema,
    hnot, discriminator, -, -, -, rfl⟩ := h
  constructor
  · simp only [Entries.retained, Entries.otherDocuments, Keywords.children, Keywords.partNodes,
      Keywords.sameNodes, List.append_assoc]
    exact List.rel_append (forall₂_of_readProperties hproperties) <|
      List.rel_append (forall₂_of_readAdditional hadditional) <|
      List.rel_append (forall₂_of_readChild hitems) <|
      List.rel_append (forall₂_of_readComposition hallOf) <|
      List.rel_append (forall₂_of_readComposition hanyOf) <|
      List.rel_append (forall₂_of_readComposition honeOf) (forall₂_of_readChild hnot)
  · have hcount := forall_kept_iff es (fun v => v = .null ∨ ∃ n, v = .int n) (.inl rfl)
      ["minLength", "maxLength", "minProperties", "maxProperties", "minItems", "maxItems"]
    have hbound := forall_kept_iff es (fun v => v = .null ∨ v.isNumber = true) (.inl rfl)
      ["minimum", "maximum", "multipleOf"]
    have hflag := forall_kept_iff es (fun v => ∃ b, v = .bool b) ⟨false, rfl⟩
      ["nullable", "uniqueItems", "exclusiveMinimum", "exclusiveMaximum"]
    have hremark := forall_kept_iff es (fun v => v = .null ∨ ∃ text, v = .str text) (.inl rfl)
      ["title", "description"]
    have hformat := kept_iff es (fun v => v = .null ∨ ∃ name, v = .str name) (.inl rfl) "format"
    constructor
    · intro hs
      exact ⟨hformat.1 hs.format, hcount.1 hs.count, hbound.1 hs.bound, hflag.1 hs.flag,
        hremark.1 hs.remark, readTarget_iff.1 hs.targetType⟩
    · intro hes
      exact ⟨⟨hformat.2 hes.format, hcount.2 hes.count, hbound.2 hes.bound,
        compiles_of_readPattern hpattern, texts_of_readRequired hrequired,
        readTarget_iff.2 hes.targetType⟩, fun t ht => mem_known_of_readType htype ht,
        hflag.2 hes.flag, hremark.2 hes.remark⟩

end

/-- The schema that accepts everything is annotated, and so is all in the one that accepts
nothing. -/
lemma annotated_of_bool {node : Node} (h : node = .schema {} ∨ node = .schema nothing) :
    ∀ s, node.HoldsSchema s → s.Annotated := by
  have hbare : ∀ notSchema : Option Node, ({ notSchema } : Schema).Annotated := fun notSchema =>
    ⟨⟨.inl rfl, by simp, by simp, .inl rfl, by simp, by simp⟩, by simp, by simp, by simp⟩
  have hempty : ∀ s, (Node.schema {}).HoldsSchema s → s.Annotated :=
    Node.HoldsSchema.forall_schema.2 ⟨hbare none, fun c hc => nomatch hc⟩
  rcases h with rfl | rfl
  · exact hempty
  · refine Node.HoldsSchema.forall_schema.2 ⟨hbare _, fun c hc => ?_⟩
    obtain rfl := List.mem_singleton.1 hc
    exact hempty

/-- **The schemas of a node that is read** are annotated exactly if the keywords that are handed on
hold values of their kinds in the schema mappings that they are read from. -/
theorem annotated_of_readNode {strictness : Strictness} {depth : Nat} {v : Value}
    {location : String} {node : Node}
    (h : (readNode strictness depth v location).outcome = .ok node) :
    (∀ s, node.HoldsSchema s → s.Annotated) ↔
      ∀ es, v.HoldsSchema Entries.retained es → es.CopiesAnnotated := by
  induction depth generalizing v location node with
  | zero => cases h
  | succ depth ih =>
    cases v with
    | bool allowed =>
      have hnone : ∀ es, ¬ (Value.bool allowed).HoldsSchema Entries.retained es :=
        fun es hes => nomatch hes
      refine iff_of_true (annotated_of_bool ?_) fun es hes => absurd hes (hnone es)
      cases allowed with
      | true => exact .inl (Except.ok.inj h).symm
      | false => exact .inr (Except.ok.inj h).symm
    | mapping es =>
      rw [readNode, readMapping] at h
      cases href : Entries.get? es (.str "$ref") with
      | none =>
        simp only [href, Traced.outcome_bind, bind_eq_ok, Traced.outcome_pure, Except.ok.injEq] at h
        obtain ⟨s, hs, rfl⟩ := h
        obtain ⟨hchildren, hannotated⟩ := readSchema_ok hs
        rw [Node.HoldsSchema.forall_schema, Value.HoldsSchema.forall_mapping href, hannotated]
        refine and_congr_right fun _ => forall_mem_iff_of_forall₂ hchildren ?_
        rintro d c ⟨location', hc⟩
        exact ih hc
      | some ref =>
        have hnone : ∀ fs, ¬ (Value.mapping es).HoldsSchema Entries.retained fs :=
          fun fs => Value.HoldsSchema.not_reference href
        refine iff_of_true (fun s hs => ?_) fun fs hfs => absurd hfs (hnone fs)
        rw [href] at h
        split at h
        next => cases h
        next =>
          cases h
          cases hs
        next => cases h
        next h' => cases h'
    | _ => cases h

end SchemaReader

/-! ## What is not read -/

/-- A computation fails, if at all, for one of the given reasons. -/
def Reads.FailsOnly {α : Type} (P : ReadError → Prop) (x : Reads α) : Prop :=
  ∀ e, x.outcome = .error e → P e

namespace Reads.FailsOnly

variable {P Q : ReadError → Prop} {α β ι : Type}

/-- A result is no failure. -/
lemma result (a : α) : FailsOnly P (pure a : Reads α) := fun e he => by cases he

/-- A failure has its own reason. -/
lemma fail {e : ReadError} (he : P e) : FailsOnly P (Traced.fail e : Reads α) := by
  rintro _ ⟨⟩
  exact he

/-- More reasons may be given. -/
lemma mono {x : Reads α} (hx : FailsOnly P x) (hPQ : ∀ e, P e → Q e) : FailsOnly Q x :=
  fun e he => hPQ e (hx e he)

/-- Computations in a row fail where one of them does. -/
lemma bind {x : Reads α} {f : α → Reads β} (hx : FailsOnly P x) (hf : ∀ a, FailsOnly P (f a)) :
    FailsOnly P (x >>= f) := by
  intro e he
  rw [Traced.outcome_bind, bind_eq_error] at he
  rcases he with he | ⟨a, -, he⟩
  · exact hx e he
  · exact hf a e he

/-- A computation for each of several things fails where it does for one of them. -/
lemma mapM {xs : List ι} {f : ι → Reads β} (h : ∀ i ∈ xs, FailsOnly P (f i)) :
    FailsOnly P (xs.mapM f) := by
  intro e he
  rw [Traced.outcome_mapM] at he
  obtain ⟨i, hi, he⟩ := mapM_eq_error he
  exact h i hi e he

end Reads.FailsOnly

namespace SchemaReader

open Reads (FailsOnly)

/-- The reasons for which a schema mapping may not be read: all definition errors but the one that
says that documents are nested further than they are, what escapes by its pattern, and the reasons
for which documents below it may not be read. -/
structure Foreseen (P : ReadError → Prop) (child : ChildReader) (es : Entries) : Prop where
  /-- Definition errors are foreseen. -/
  definition : ∀ d, (∀ location, d ≠ .tooNested location) → P (.definition d)
  /-- What escapes is foreseen. -/
  pattern : ∀ fault, es.Escapes fault → P (.fault (.pattern fault))
  /-- The documents below are not read for foreseen reasons only. -/
  child : ∀ d ∈ es.visited, ∀ location, FailsOnly P (child d location)

namespace Foreseen

variable {P : ReadError → Prop} {child : ChildReader} {es : Entries} {location : String}

/-- A definition error is foreseen. -/
lemma refuse (h : Foreseen P child es) {α : Type} {d : DefinitionError}
    (hd : ∀ location, d ≠ .tooNested location) : FailsOnly P (Reads.refuse d : Reads α) :=
  .fail (h.definition d hd)

/-- The type keyword is not read for foreseen reasons only. -/
lemma readType (h : Foreseen P child es) : FailsOnly P (readType es location) := by
  unfold SchemaReader.readType
  split
  · exact .result _
  · exact .result _
  · dsimp only
    split
    · split
      · exact h.refuse (by simp)
      · exact .result _
    · exact h.refuse (by simp)

/-- The allowed values are not read for foreseen reasons only. -/
lemma readEnum (h : Foreseen P child es) : FailsOnly P (readEnum es location) := by
  unfold SchemaReader.readEnum
  split
  · exact .result _
  · exact .result _
  · exact h.refuse (by simp)

/-- The pattern keyword is not read for foreseen reasons only. -/
lemma readPattern (h : Foreseen P child es) : FailsOnly P (readPattern es location) := by
  unfold SchemaReader.readPattern
  split
  · exact .result _
  next p hp =>
    split
    · exact .result _
    · exact h.refuse (by simp)
    next fault hflaw hfault =>
      exact .fail (h.pattern fault ⟨p, hp, hfault, hflaw⟩)
  · exact h.refuse (by simp)

/-- Required names are not read for foreseen reasons only. -/
lemma readRequired (h : Foreseen P child es) : FailsOnly P (readRequired es location) := by
  unfold SchemaReader.readRequired
  split
  · exact .result _
  · split
    · exact .result _
    · exact h.refuse (by simp)
  · exact h.refuse (by simp)

/-- The discriminator keyword is not read for foreseen reasons only. -/
lemma readDiscriminator (h : Foreseen P child es) :
    FailsOnly P (readDiscriminator es location) := by
  unfold SchemaReader.readDiscriminator
  split
  · exact .result _
  · split
    · dsimp only
      split
      · exact .result _
      · split
        · exact .result _
        · exact h.refuse (by simp)
    · exact h.refuse (by simp)
  · exact h.refuse (by simp)

/-- Unknown keywords are not passed over for foreseen reasons only. -/
lemma checkUnknown (h : Foreseen P child es) (strictness : Strictness) :
    FailsOnly P (checkUnknown strictness es location) := by
  unfold SchemaReader.checkUnknown
  split
  · exact .result _
  · exact h.refuse (by simp)
  · exact fun e he => by cases he

/-- Declared properties are not read for foreseen reasons only. -/
lemma readProperties (h : Foreseen P child es) :
    FailsOnly P (readProperties child es location) := by
  unfold SchemaReader.readProperties
  split
  · exact .result _
  next ps hps =>
    refine .bind (.mapM fun p hp => .bind (h.child p.2 ?_ _) fun _ => .result _) fun _ => .result _
    simp only [Entries.visited, Entries.declaredDocuments_eq hps, List.map_map, List.mem_append]
    exact .inl (List.mem_map_of_mem (f := Prod.snd ∘ fun p : Value × Value => (p.1.text, p.2)) hp)
  · exact h.refuse (by simp)

/-- The rule for undeclared properties is not read for foreseen reasons only. -/
lemma readAdditional (h : Foreseen P child es) :
    FailsOnly P (readAdditional child es location) := by
  unfold SchemaReader.readAdditional
  split
  · exact .result _
  · exact .result _
  next v hflag hv =>
    refine .bind (h.child v ?_ _) fun _ => .result _
    have hmem : es.additionalDocument = some v := by
      rw [Entries.additionalDocument, hv]
      cases v with
      | bool allowed => exact absurd rfl (hflag allowed)
      | _ => rfl
    simp [Entries.visited, Entries.otherDocuments, hmem]

/-- A keyword with a document in schema position is not read for foreseen reasons only. -/
lemma readChild (h : Foreseen P child es) {keyword : String}
    (hkeyword : ∀ d ∈ (es.get? (.str keyword)).toList, d ∈ es.visited) :
    FailsOnly P (readChild child es keyword location) := by
  unfold SchemaReader.readChild
  split
  · exact .result _
  next v hv =>
    exact .bind (h.child v (hkeyword v (by simp [hv])) _) fun _ => .result _

/-- A keyword with documents in schema position is not read for foreseen reasons only. -/
lemma readComposition (h : Foreseen P child es) {keyword : String}
    (hkeyword : ∀ d ∈ es.listedDocuments keyword, d ∈ es.visited) :
    FailsOnly P (readComposition child es keyword location) := by
  unfold SchemaReader.readComposition
  dsimp only
  split
  · exact .result _
  · exact h.refuse (by simp)
  next items _ hitems =>
    rw [Entries.listedDocuments_eq hitems] at hkeyword
    exact .bind (.mapM fun item hitem =>
      h.child item.1 (hkeyword _ (List.fst_mem_of_mem_zipIdx hitem)) _) fun _ => .result _
  · exact h.refuse (by simp)

/-- **A schema mapping is not read for foreseen reasons only.** -/
lemma readSchema (h : Foreseen P child es) (strictness : Strictness) :
    FailsOnly P (readSchema strictness child es location) := by
  have hvisited : ∀ d, d ∈ es.otherDocuments → d ∈ es.visited :=
    fun d hd => List.mem_append_right _ hd
  unfold SchemaReader.readSchema
  exact .bind h.readType fun _ => .bind h.readEnum fun _ => .bind h.readPattern fun _ =>
    .bind h.readProperties fun _ => .bind h.readRequired fun _ => .bind h.readAdditional fun _ =>
    .bind (h.readChild fun d hd => hvisited d (by simp_all [Entries.otherDocuments])) fun _ =>
    .bind (h.readComposition fun d hd => hvisited d (by simp [Entries.otherDocuments, hd])) fun _ =>
    .bind (h.readComposition fun d hd => hvisited d (by simp [Entries.otherDocuments, hd])) fun _ =>
    .bind (h.readComposition fun d hd => hvisited d (by simp [Entries.otherDocuments, hd])) fun _ =>
    .bind (h.readChild fun d hd => hvisited d (by simp_all [Entries.otherDocuments])) fun _ =>
    .bind h.readDiscriminator fun _ => .bind (h.checkUnknown strictness) fun _ => .result _

end Foreseen

/-- Why a document is not read: a definition error about it, or a pattern of a schema mapping in it
that escapes. -/
inductive Unread (v : Value) : ReadError → Prop
  /-- The document defines no schema. -/
  | definition {e : DefinitionError} : (∀ location, e ≠ .tooNested location) →
    Unread v (.definition e)
  /-- A pattern escapes. -/
  | pattern {es : Entries} {fault : PatternFault} : v.HoldsSchema Entries.visited es →
    es.Escapes fault → Unread v (.fault (.pattern fault))

/-- **Why a node is not read**, if documents may be nested as deep as they are: a definition error,
or a pattern that escapes. -/
theorem readNode_failsOnly (strictness : Strictness) {depth : Nat} {v : Value} (location : String)
    (hdepth : v.depth ≤ depth) : FailsOnly (Unread v) (readNode strictness depth v location) := by
  induction depth generalizing v location with
  | zero => cases v <;> simp [Value.depth] at hdepth
  | succ depth ih =>
    have hrefuse : FailsOnly (Unread v) (Reads.refuse (.notMapping location v.className) :
      Reads Node) := .fail (.definition (by simp))
    cases v with
    | bool allowed => cases allowed <;> exact .result _
    | mapping es =>
      rw [readNode, readMapping]
      split
      · exact .fail (.definition (by simp))
      · exact .result _
      · exact .fail (.definition (by simp))
      next href =>
        have hforeseen : Foreseen (Unread (.mapping es)) (readNode strictness depth) es := by
          refine ⟨fun d hd => .definition hd, fun fault hfault => .pattern (.here href) hfault,
            fun d hd location' => ?_⟩
          have hless := Entries.depth_lt_of_mem_visited hd
          refine (ih location' (by omega)).mono ?_
          rintro _ (hd' | ⟨hheld, hescapes⟩)
          · exact .definition hd'
          · exact .pattern (.inside href hd hheld) hescapes
        exact .bind (hforeseen.readSchema strictness) fun _ => .result _
    | _ => exact hrefuse

/-- A pattern that escapes makes the reader stop where the type and the allowed values are read. -/
lemma readSchema_eq_fault (strictness : Strictness) (child : ChildReader) {es : Entries}
    {location : String} {type : Option TypeName} {enum : Option (List Value)} {fault : PatternFault}
    (htype : (readType es location).outcome = .ok type)
    (henum : (readEnum es location).outcome = .ok enum) (hescapes : es.Escapes fault) :
    (readSchema strictness child es location).outcome = .error (.fault (.pattern fault)) := by
  obtain ⟨p, hp, hfault, hflaw⟩ := hescapes
  have hpattern : (readPattern es location).outcome = .error (.fault (.pattern fault)) := by
    rw [readPattern, hp]
    dsimp only
    rw [hfault]
    cases fault with
    | malformed flaw place => exact absurd rfl (hflaw flaw place)
    | _ => rfl
  rw [readSchema, Traced.outcome_bind, htype]
  change (readEnum es location >>= _).outcome = _
  rw [Traced.outcome_bind, henum]
  change (readPattern es location >>= _).outcome = _
  rw [Traced.outcome_bind, hpattern]
  rfl

end SchemaReader

/-! ## The gate -/

/-- A schema mapping with a length that is no number. -/
def wordyLength : Entries := [(.str "type", .str "string"), (.str "minLength", .str "long")]

/-- A schema mapping with a pattern that asks for more rounds than can be counted. -/
def longPattern : Entries := [(.str "type", .str "string"), (.str "pattern", .str "a{4294967295}")]

/-- The pattern escapes. -/
lemma longPattern_escapes : longPattern.Escapes .tooManyRounds :=
  ⟨_, rfl, Keywords.ofText_tooManyRounds, fun _ _ h => nomatch h⟩

end DataSchema
