import DataSchema.Proofs.Outcome
import DataSchema.Proofs.SchemaPositions

set_option autoImplicit false

/-!
# Strict reading

A strict reader reads what a lenient one does where every key of every schema mapping is a known
keyword, and as the same node; elsewhere it reads nothing. Where a document stands has no influence
on what it is read as.

Two readers are compared through what they have in common: one reads what the other does where a
condition holds. The conditions add up along a sequence of computations, so that the condition for a
document is that of each schema mapping in it.

## Main definitions

* `DataSchema.Reads.SameWhere` — one computation gives what the other does where something holds.
* `DataSchema.Entries.OnlyKnown` — every key of a schema mapping is a known keyword.

## Main results

* `DataSchema.SchemaReader.readNode_sameWhere` — a reader against a lenient one.
* `DataSchema.Value.readNode_elsewhere` — what is read does not depend on where it stands.
* `DataSchema.readNode_strict_iff` — a strict reader against a lenient one.
-/

namespace DataSchema

/-- One computation gives what the other does where something holds, and fails elsewhere. -/
def Reads.SameWhere {α : Type} (P : Prop) (x y : Reads α) : Prop :=
  ∀ a, x.outcome = .ok a ↔ y.outcome = .ok a ∧ P

namespace Reads.SameWhere

variable {α β ι : Type} {P Q : Prop} {x y : Reads α}

/-- Computations with the same outcome give the same. -/
lemma of_eq (h : x.outcome = y.outcome) : SameWhere True x y := fun a => by rw [h, and_true]

/-- Where two computations fail, any condition will do. -/
lemma refused (e e' : DefinitionError) : SameWhere P (refuse e : Reads α) (refuse e') :=
  fun a => by simp [refuse]

/-- The condition may be given in another form. -/
lemma congr (h : SameWhere P x y) (hPQ : P ↔ Q) : SameWhere Q x y := fun a => by rw [h a, hPQ]

/-- The conditions of computations in a row add up. -/
lemma bind {f g : α → Reads β} (h : SameWhere P x y) (hfg : ∀ a, SameWhere Q (f a) (g a)) :
    SameWhere (P ∧ Q) (x >>= f) (y >>= g) := by
  intro b
  simp only [Traced.outcome_bind, bind_eq_ok, h _, hfg _ b]
  constructor
  · rintro ⟨a, ⟨hy, hP⟩, hg, hQ⟩
    exact ⟨⟨a, hy, hg⟩, hP, hQ⟩
  · rintro ⟨⟨a, hy, hg⟩, hP, hQ⟩
    exact ⟨a, ⟨hy, hP⟩, hg, hQ⟩

/-- What is made of a result without failing adds no condition. -/
lemma bind_pure (h : SameWhere P x y) (f : α → β) :
    SameWhere P (do return f (← x)) (do return f (← y)) :=
  (h.bind fun a => of_eq (x := pure (f a)) rfl).congr (by rw [and_true])

/-- The conditions for each of several things add up. -/
lemma mapM {xs : List ι} {f g : ι → Reads β} {A : ι → Prop}
    (h : ∀ i ∈ xs, SameWhere (A i) (f i) (g i)) :
    SameWhere (∀ i ∈ xs, A i) (xs.mapM f) (xs.mapM g) := by
  induction xs with
  | nil => exact (of_eq rfl).congr (by simp)
  | cons i xs ih =>
    have hothers := ih fun j hj => h j (List.mem_cons_of_mem i hj)
    rw [List.mapM_cons, List.mapM_cons, List.forall_mem_cons]
    exact (h i List.mem_cons_self).bind fun b => hothers.bind_pure (b :: ·)

end Reads.SameWhere

/-- Every key of a schema mapping is a keyword that is kept or ignored. -/
def Entries.OnlyKnown (es : Entries) : Prop :=
  ∀ e ∈ es, ∃ keyword ∈ SchemaReader.keptKeywords ++ SchemaReader.ignoredKeywords,
    e.1 = .str keyword

namespace SchemaReader

open Reads (SameWhere)

variable {child child' : ChildReader} {A : Value → Prop} {es : Entries}

/-! ## Keywords without schemas -/

/-- The type keyword is read alike everywhere. -/
lemma readType_sameWhere (location location' : String) :
    SameWhere True (readType es location) (readType es location') := by
  unfold readType
  split
  · exact .of_eq rfl
  · exact .of_eq rfl
  · split
    · split
      · exact .refused _ _
      · exact .of_eq rfl
    · exact .refused _ _

/-- The allowed values are read alike everywhere. -/
lemma readEnum_sameWhere (location location' : String) :
    SameWhere True (readEnum es location) (readEnum es location') := by
  unfold readEnum
  split
  · exact .of_eq rfl
  · exact .of_eq rfl
  · exact .refused _ _

/-- The pattern keyword is read alike everywhere. -/
lemma readPattern_sameWhere (location location' : String) :
    SameWhere True (readPattern es location) (readPattern es location') := by
  unfold readPattern
  split
  · exact .of_eq rfl
  · split
    · exact .of_eq rfl
    · exact .refused _ _
    · exact .of_eq rfl
  · exact .refused _ _

/-- The required names are read alike everywhere. -/
lemma readRequired_sameWhere (location location' : String) :
    SameWhere True (readRequired es location) (readRequired es location') := by
  unfold readRequired
  split
  · exact .of_eq rfl
  · split
    · exact .of_eq rfl
    · exact .refused _ _
  · exact .refused _ _

/-- The discriminator keyword is read alike everywhere. -/
lemma readDiscriminator_sameWhere (location location' : String) :
    SameWhere True (readDiscriminator es location) (readDiscriminator es location') := by
  unfold readDiscriminator
  split
  · exact .of_eq rfl
  · split
    · dsimp only
      split
      · exact .of_eq rfl
      · split
        · exact .of_eq rfl
        · exact .refused _ _
    · exact .refused _ _
  · exact .refused _ _

/-- No key is unknown exactly when every key is a known keyword. -/
lemma unknownKeys_eq_nil : unknownKeys es = [] ↔ es.OnlyKnown := by
  unfold unknownKeys Entries.OnlyKnown
  rw [List.filter_eq_nil_iff, List.forall_mem_map]
  refine forall₂_congr fun e _ => ?_
  cases e.1 <;> simp [or_iff_not_imp_left]

/-- Unknown keywords are passed over exactly by a lenient reader. -/
lemma checkUnknown_sameWhere (strictness : Strictness) (location location' : String) :
    SameWhere (strictness = .strict → es.OnlyKnown) (checkUnknown strictness es location)
      (checkUnknown .lenient es location') := by
  rw [← unknownKeys_eq_nil]
  unfold checkUnknown
  intro a
  cases unknownKeys es <;> cases strictness <;> simp [Reads.refuse]

/-! ## Keywords with schemas -/

/-- The declared properties are read alike if their documents are. -/
lemma readProperties_sameWhere
    (hchild : ∀ d ∈ es.declaredDocuments.map Prod.snd, ∀ location location',
      SameWhere (A d) (child d location) (child' d location')) (location location' : String) :
    SameWhere (∀ d ∈ es.declaredDocuments.map Prod.snd, A d) (readProperties child es location)
      (readProperties child' es location') := by
  unfold readProperties
  split
  next h => exact (Reads.SameWhere.of_eq rfl).congr (by simp [Entries.declaredDocuments, h])
  next ps hps =>
    simp only [Entries.declaredDocuments_eq hps, List.map_map, List.forall_mem_map,
      Function.comp_apply] at hchild ⊢
    have hread := Reads.SameWhere.mapM fun (p : Value × Value) hp =>
      (hchild p hp (location ++ "/properties/" ++ p.1.text)
        (location' ++ "/properties/" ++ p.1.text)).bind_pure fun node => (p.1.text, node)
    exact hread.bind_pure (some ∘ ofNamed)
  · exact .refused _ _

/-- The rule for undeclared properties is read alike if its document is. -/
lemma readAdditional_sameWhere
    (hchild : ∀ d ∈ es.additionalDocument.toList, ∀ location location',
      SameWhere (A d) (child d location) (child' d location')) (location location' : String) :
    SameWhere (∀ d ∈ es.additionalDocument.toList, A d) (readAdditional child es location)
      (readAdditional child' es location') := by
  unfold readAdditional
  unfold Entries.additionalDocument at hchild ⊢
  cases h : es.get? (.str "additionalProperties") with
  | none => exact (Reads.SameWhere.of_eq rfl).congr (by simp)
  | some v =>
    rw [h] at hchild
    by_cases hflag : ∃ allowed, v = .bool allowed
    · obtain ⟨allowed, rfl⟩ := hflag
      exact (Reads.SameWhere.of_eq rfl).congr (by simp)
    · cases v with
      | bool allowed => exact absurd ⟨allowed, rfl⟩ hflag
      | _ =>
        exact ((hchild _ List.mem_cons_self _ _).bind_pure Additional.schema).congr (by simp)

/-- A keyword that contains one schema is read alike if its document is. -/
lemma readChild_sameWhere {keyword : String}
    (hchild : ∀ d ∈ (es.get? (.str keyword)).toList, ∀ location location',
      SameWhere (A d) (child d location) (child' d location')) (location location' : String) :
    SameWhere (∀ d ∈ (es.get? (.str keyword)).toList, A d) (readChild child es keyword location)
      (readChild child' es keyword location') := by
  unfold readChild
  cases h : es.get? (.str keyword) with
  | none => exact (Reads.SameWhere.of_eq rfl).congr (by simp)
  | some v =>
    rw [h] at hchild
    exact ((hchild v List.mem_cons_self _ _).bind_pure some).congr (by simp)

/-- A keyword that contains several schemas is read alike if its documents are. -/
lemma readComposition_sameWhere {keyword : String}
    (hchild : ∀ d ∈ es.listedDocuments keyword, ∀ location location',
      SameWhere (A d) (child d location) (child' d location')) (location location' : String) :
    SameWhere (∀ d ∈ es.listedDocuments keyword, A d) (readComposition child es keyword location)
      (readComposition child' es keyword location') := by
  unfold readComposition
  dsimp only
  split
  next h => exact (Reads.SameWhere.of_eq rfl).congr (by simp [Entries.listedDocuments, h])
  · exact .refused _ _
  next items _ h =>
    rw [Entries.listedDocuments_eq h] at hchild ⊢
    have hread := Reads.SameWhere.mapM fun item (hitem : item ∈ items.zipIdx) =>
      hchild item.1 (List.fst_mem_of_mem_zipIdx hitem)
        (location ++ "/" ++ keyword ++ "/" ++ toString item.2)
        (location' ++ "/" ++ keyword ++ "/" ++ toString item.2)
    refine (hread.bind_pure some).congr ?_
    rw [← List.forall_mem_map (f := Prod.fst) (P := A), List.zipIdx_map_fst]
  · exact .refused _ _

/-! ## Schemas -/

/-- A schema mapping is read by a reader as by a lenient one where every document below it is and,
if the reader is strict, every key is known. -/
lemma readSchema_sameWhere {strictness : Strictness}
    (hchild : ∀ d ∈ es.visited, ∀ location location',
      SameWhere (A d) (child d location) (child' d location')) (location location' : String) :
    SameWhere ((strictness = .strict → es.OnlyKnown) ∧ ∀ d ∈ es.visited, A d)
      (readSchema strictness child es location) (readSchema .lenient child' es location') := by
  simp only [Entries.visited, Entries.otherDocuments, List.forall_mem_append] at hchild ⊢
  obtain ⟨hproperties, ⟨hadditional, hitems⟩, ⟨⟨hallOf, hanyOf⟩, honeOf⟩, hnot⟩ := hchild
  unfold readSchema
  refine Reads.SameWhere.congr ((readType_sameWhere location location').bind fun type =>
    (readEnum_sameWhere location location').bind fun enum =>
    (readPattern_sameWhere location location').bind fun pattern =>
    (readProperties_sameWhere hproperties location location').bind fun properties =>
    (readRequired_sameWhere location location').bind fun required =>
    (readAdditional_sameWhere hadditional location location').bind fun additional =>
    (readChild_sameWhere hitems location location').bind fun items =>
    (readComposition_sameWhere honeOf location location').bind fun oneOf =>
    (readComposition_sameWhere hanyOf location location').bind fun anyOf =>
    (readComposition_sameWhere hallOf location location').bind fun allOf =>
    (readChild_sameWhere hnot location location').bind fun notSchema =>
    (readDiscriminator_sameWhere location location').bind fun discriminator =>
    (checkUnknown_sameWhere strictness location location').bind fun _ => .of_eq rfl) ?_
  tauto

/-- **A reader against a lenient one**: the same nodes, where every key of every schema mapping is
known or the reader is lenient itself. The places of the documents may differ. -/
lemma readNode_sameWhere (strictness : Strictness) (depth : Nat) (v : Value)
    (location location' : String) :
    SameWhere (strictness = .strict → ∀ es, v.HoldsSchema Entries.visited es → es.OnlyKnown)
      (readNode strictness depth v location) (readNode .lenient depth v location') := by
  induction depth generalizing v location location' with
  | zero => exact .refused _ _
  | succ depth ih =>
    cases v with
    | bool allowed =>
      have hnone : ∀ es, ¬ (Value.bool allowed).HoldsSchema Entries.visited es :=
        fun es hes => nomatch hes
      cases allowed <;> exact (Reads.SameWhere.of_eq rfl).congr (by simp [hnone])
    | mapping es =>
      rw [readNode, readNode, readMapping, readMapping]
      cases href : Entries.get? es (.str "$ref") with
      | none =>
        refine ((readSchema_sameWhere fun d _ => ih d) location location').bind_pure
          Node.schema |>.congr ?_
        rw [Value.HoldsSchema.forall_mapping href]
        cases strictness <;> simp
      | some ref =>
        have hnone : ∀ fs, ¬ (Value.mapping es).HoldsSchema Entries.visited fs :=
          fun fs => Value.HoldsSchema.not_reference href
        split
        · exact .refused _ _
        · exact (Reads.SameWhere.of_eq rfl).congr (by simp [hnone])
        · exact .refused _ _
        next h => cases h
    | _ => exact .refused _ _

end SchemaReader

/-- **The place of a document has no influence on what it is read as.** -/
theorem Value.readNode_elsewhere (v : Value) (strictness : Strictness) (location location' : String)
    (node : Node) : (v.readNode strictness location).outcome = .ok node ↔
      (v.readNode strictness location').outcome = .ok node := by
  unfold Value.readNode
  rw [SchemaReader.readNode_sameWhere strictness _ v location "" node,
    SchemaReader.readNode_sameWhere strictness _ v location' "" node]

/-- **Strict reading only rejects.** A strict reader reads a document exactly if a lenient one does
and every key of every schema mapping in the document is a known keyword; what a strict reader
reads, a lenient one reads as the same node. -/
theorem readNode_strict_iff (v : Value) (location : String) :
    ((∃ node, (v.readNode .strict location).outcome = .ok node) ↔
      (∃ node, (v.readNode .lenient location).outcome = .ok node) ∧
        ∀ es, v.HoldsSchema Entries.visited es → es.OnlyKnown) ∧
    ∀ node, (v.readNode .strict location).outcome = .ok node →
      (v.readNode .lenient location).outcome = .ok node := by
  have hread := SchemaReader.readNode_sameWhere .strict v.depth v location location
  simp only [true_imp_iff] at hread
  unfold Value.readNode
  refine ⟨?_, fun node h => ((hread node).1 h).1⟩
  rw [exists_congr hread, exists_and_right]

/-- A schema of lists of whole numbers. -/
def countsDocument : Value :=
  .mapping [(.str "$schema", .str "draft"),
    (.str "items", .mapping [(.str "type", .str "integer")])]

/-- The same schema, with a remark that is no keyword. -/
def remarkedDocument : Value :=
  .mapping [(.str "items", .mapping [(.str "type", .str "integer"), (.str "remark", .str "whole")])]

/-- A strict reader reads the schema as a lenient one does, and not the one with the remark. -/
theorem remarkedDocument_rejected :
    (countsDocument.readNode .strict "#").outcome =
        .ok (.schema { items := some (.schema { type := some .integer }) }) ∧
      (countsDocument.readNode .lenient "#").outcome =
        .ok (.schema { items := some (.schema { type := some .integer }) }) ∧
      ¬ ∃ node, (remarkedDocument.readNode .strict "#").outcome = .ok node := by
  have hcounts : (countsDocument.readNode .strict "#").outcome =
      .ok (.schema { items := some (.schema { type := some .integer }) }) := rfl
  refine ⟨hcounts, (readNode_strict_iff _ _).2 _ hcounts, fun hread => ?_⟩
  obtain ⟨-, hknown⟩ := (readNode_strict_iff _ _).1.1 hread
  have hheld : remarkedDocument.HoldsSchema Entries.visited
      [(.str "type", .str "integer"), (.str "remark", .str "whole")] :=
    .inside rfl List.mem_cons_self (.here rfl)
  obtain ⟨keyword, hkeyword, h⟩ := hknown _ hheld (.str "remark", .str "whole")
    (List.mem_cons_of_mem _ List.mem_cons_self)
  cases h
  exact absurd hkeyword (by decide)

end DataSchema
