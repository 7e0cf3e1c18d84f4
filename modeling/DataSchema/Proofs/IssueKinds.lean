import DataSchema.Proofs.Keywords
import DataSchema.Proofs.Nesting
import DataSchema.Proofs.Reachability
import DataSchema.Proofs.NodeSteps

set_option autoImplicit false

/-!
# Issues and where they come from

Every issue that a check of a schema finds comes from one of few places: it is about the value
itself, or about a property that must not be there, or it is an issue of a part of the value, or of
a member of a composition. Alternatives keep the issues of their nodes to themselves, and of the
keywords only the exclusive choice finds that a match is ambiguous. So without an exclusive choice
along parts and members of compositions no issue says so.

## Main definitions

* `DataSchema.Validation.Finds` — checks whose issues all have a property.
* `DataSchema.Validation.FindsOnly` — checks whose issues are of certain kinds.
* `DataSchema.Keywords.reportingNodes` — the nodes below a schema whose issues are its own.

## Main results

* `DataSchema.Validation.checkSchema_finds` — a property of all issues of a schema, from where they
  come.
* `DataSchema.Validation.checkNode_unambiguous` — checks of nodes without exclusive choice, at every
  depth.
-/

namespace DataSchema

/-- The nodes below a schema whose issues are issues of the schema: those for parts of the value,
and the members of a composition. -/
def Keywords.reportingNodes (s : Schema) : List Node := s.partNodes ++ s.allOfList

namespace Validation

/-- Every issue that a check finds has a property. -/
def Finds (P : Issue → Prop) (x : Check) : Prop := ∀ is, x = .ok is → ∀ i ∈ is, P i

namespace Finds

variable {P : Issue → Prop} {α : Type}

/-- Issues with the property. -/
lemma ok {is : List Issue} (h : ∀ i ∈ is, P i) : Finds P (.ok is) := by
  rintro js ⟨⟩
  exact h

/-- No issue has any property. -/
lemma nil : Finds P (.ok []) := ok (by simp)

/-- What is stopped finds nothing. -/
lemma error (f : Fault) : Finds P (.error f) := by rintro is ⟨⟩

/-- Issues with one property have every property that follows from it. -/
lemma mono {Q : Issue → Prop} {x : Check} (h : Finds P x) (hQ : ∀ i, P i → Q i) : Finds Q x :=
  fun is his i hi => hQ i (h is his i hi)

/-- One issue with the property, if a condition holds. -/
lemma issueIf {issue : Issue} (h : P issue) (holds : Bool) :
    ∀ i ∈ Validation.issueIf holds issue, P i := by
  intro i hi
  unfold Validation.issueIf at hi
  split at hi
  · rwa [List.mem_singleton.1 hi]
  · cases hi

/-- An evaluation followed by a check. -/
lemma after {x : Except Fault α} {f : α → Check} (hf : ∀ a, Finds P (f a)) :
    Finds P (x >>= f) := by
  intro is his
  obtain ⟨a, -, ha⟩ := bind_eq_ok.1 his
  exact hf a is ha

/-- An evaluation whose results stand for issues. -/
lemma map {x : Except Fault α} {f : α → List Issue} (hf : ∀ a, ∀ i ∈ f a, P i) :
    Finds P (x.map f) := by
  intro is his
  obtain ⟨a, -, rfl⟩ := map_eq_ok.1 his
  exact hf a

/-- A check followed by one that adds to its issues. -/
lemma bind {x : Check} {f : List Issue → Check} (hx : Finds P x)
    (hf : ∀ is, (∀ i ∈ is, P i) → Finds P (f is)) : Finds P (x >>= f) := by
  intro is his
  obtain ⟨js, hjs, hrest⟩ := bind_eq_ok.1 his
  exact hf js (hx js hjs) is hrest

/-- Checks of several things. -/
lemma gather {xs : List α} {f : α → Check} (h : ∀ x ∈ xs, Finds P (f x)) :
    Finds P (Validation.gather xs f) := by
  intro is his i hi
  obtain ⟨x, hx, part, hpart, hi⟩ := mem_of_gather his hi
  exact h x hx part hpart i hi

end Finds

/-- A check finds issues of certain kinds only. -/
def FindsOnly (K : IssueKind → Prop) (x : Check) : Prop := ∀ is, x = .ok is → ∀ i ∈ is, K i.kind

/-- A check that never finds that a match is ambiguous. -/
abbrev Unambiguous (x : Check) : Prop := FindsOnly (· ≠ .ambiguousMatch) x

section

variable {P : Issue → Prop} {child : NodeChecker} {s : Schema} {v : Value} {path : Path}

/-! ## Issues of the value itself -/

section

variable (hown : ∀ kind message, kind ≠ IssueKind.ambiguousMatch → P ⟨kind, message, path⟩)

include hown

/-- One violation, if a condition holds. -/
lemma violation_finds (holds : Bool) (message : String) :
    ∀ i ∈ issueIf holds (violation message path), P i :=
  Finds.issueIf (hown _ _ (by decide)) holds

/-- A value that is not allowed is an issue of the value itself. -/
lemma checkEnum_finds (s : Schema) (v : Value) : ∀ i ∈ checkEnum s v path, P i := by
  unfold checkEnum
  split
  · simp
  · exact Finds.issueIf (hown _ _ (by decide)) _

/-- The issues of a text are of the value itself. -/
lemma checkText_finds (s : Schema) (text : String) : Finds P (checkText s text path) := by
  rw [checkText_eq]
  refine .after fun short => .after fun long => .after fun missing => .ok ?_
  simp only [List.forall_mem_append]
  exact ⟨⟨violation_finds hown _ _, violation_finds hown _ _⟩, violation_finds hown _ _⟩

/-- The issues of a bound are of the value itself. -/
lemma checkBound_finds (n : Number) (v bound exclusive : Value)
    (strictly weakly : Number → Number → Bool) (excludedWords includedWords : String) :
    Finds P
      (checkBound n v bound exclusive strictly weakly excludedWords includedWords path) := by
  rw [checkBound_eq]
  split
  · exact .nil
  · refine .map fun b => ?_
    unfold boundIssues
    dsimp only
    split
    · exact List.forall_mem_singleton.2 (hown _ _ (by decide))
    · exact violation_finds hown _ _

/-- The issues of a divisor are of the value itself. -/
lemma checkMultiple_finds (n : Number) (v divisor : Value) :
    Finds P (checkMultiple n v divisor path) := by
  unfold checkMultiple
  split
  · exact .nil
  · split
    · exact .error _
    · split
      · exact .ok (violation_finds hown _ _)
      · exact .error _

/-- The issues of keywords for scalars are of the value itself. -/
lemma checkScalar_finds (s : Schema) (v : Value) : Finds P (checkScalar s v path) := by
  have htext : Finds P (textIssues s v path) := by
    unfold textIssues
    split
    · exact checkText_finds hown s _
    · exact .nil
  have hnumber : Finds P (numberIssues s v path) := by
    unfold numberIssues
    split
    next n _ =>
      unfold checkNumber
      refine .bind (checkBound_finds hown _ _ _ _ _ _ _ _) fun low hl =>
        .bind (checkBound_finds hown _ _ _ _ _ _ _ _) fun high hh =>
          .bind (checkMultiple_finds hown _ _ _) fun multiple hm => .ok ?_
      exact List.forall_mem_append.2 ⟨List.forall_mem_append.2 ⟨hl, hh⟩, hm⟩
    · exact .nil
  have hformat : Finds P (checkFormatKeyword s v path) := by
    rw [checkFormatKeyword_eq]
    refine .map fun reason? => ?_
    cases reason? with
    | none => simp [formatIssues]
    | some reason => exact List.forall_mem_singleton.2 (hown _ _ (by decide))
  rw [checkScalar_eq]
  refine htext.bind fun text ht => hnumber.bind fun number hn => hformat.bind fun format hf =>
    .ok ?_
  exact List.forall_mem_append.2 ⟨List.forall_mem_append.2 ⟨ht, hn⟩, hf⟩

/-! ## Issues of parts -/

/-- The issues of an object are of the value itself, of a property that must not be there, or of a
part. -/
lemma checkObject_finds
    (hextra : ∀ key w message, v.HasPartAt key w →
      P ⟨.unexpectedProperty, message, path ++ [key]⟩)
    (hpart : ∀ c ∈ s.partNodes, ∀ token w, v.HasPartAt token w →
      Finds P (child c w (path ++ [token]))) :
    Finds P (checkObject child s v path) := by
  unfold checkObject
  split
  · exact .nil
  next data hview =>
    have hundeclared : ∀ e ∈ undeclared s data, v.HasPartAt e.1 e.2 := fun e he =>
      .of_view hview (List.mem_filter.1 he).1
    have hdeclared : Finds P (checkProperties child s data path) := by
      refine .gather fun p hp => ?_
      split
      next w hw => exact hpart _ (Keywords.mem_partNodes_declared hp) _ _ (.get hview hw)
      · exact .nil
    have hrequired : Finds P (gather s.required (checkRequiredName data path)) := by
      refine .gather fun name _ => ?_
      unfold checkRequiredName
      split
      · exact .error _
      · exact .ok (Finds.issueIf (hown _ _ (by decide)) _)
    have hadditional : Finds P (checkAdditional child s data path) := by
      unfold checkAdditional
      split
      · exact .nil
      · exact .nil
      · refine .ok fun i hi => ?_
        obtain ⟨e, he, rfl⟩ := List.mem_map.1 hi
        exact hextra _ _ _ (hundeclared e he)
      next node hnode =>
        exact .gather fun e he =>
          hpart _ (Keywords.mem_partNodes_additional hnode) _ _ (hundeclared e he)
    have hcount : Finds P (checkPropertyCount s data.length path) := by
      refine .after fun few => .after fun many => .ok ?_
      exact List.forall_mem_append.2 ⟨violation_finds hown _ _, violation_finds hown _ _⟩
    refine hdeclared.bind fun declared hd => hrequired.bind fun required hr =>
      hadditional.bind fun additional ha => hcount.bind fun count hc => .ok ?_
    simp only [List.forall_mem_append]
    exact ⟨⟨⟨hd, hr⟩, ha⟩, hc⟩

/-- The issues of an array are of the value itself or of a part. -/
lemma checkArray_finds
    (hpart : ∀ c ∈ s.partNodes, ∀ token w, v.HasPartAt token w →
      Finds P (child c w (path ++ [token]))) :
    Finds P (checkArray child s v path) := by
  unfold checkArray
  split
  · exact .nil
  next items hitems =>
    have heach : Finds P (checkItems child s items path) := by
      unfold checkItems
      split
      · exact .nil
      next node hnode =>
        refine .gather fun item hitem => ?_
        exact hpart _ (Keywords.mem_partNodes_items hnode) _ _
          (.item hitems (List.mk_mem_zipIdx_iff_getElem?.1 hitem))
    have hcount : Finds P (checkItemCount s items.length path) := by
      refine .after fun few => .after fun many => .ok ?_
      exact List.forall_mem_append.2 ⟨violation_finds hown _ _, violation_finds hown _ _⟩
    have hunique : ∀ i ∈ checkUnique s items path, P i := by
      unfold checkUnique
      split
      · split
        · exact List.forall_mem_singleton.2 (hown _ _ (by decide))
        · simp
      · simp
    refine heach.bind fun each he => hcount.bind fun count hc => .ok ?_
    simp only [List.forall_mem_append]
    exact ⟨⟨he, hc⟩, hunique⟩

/-! ## Issues of members -/

/-- The issues of a composition are of the value itself or of a member. -/
lemma checkComposition_finds
    (hambiguous : s.oneOfList ≠ [] → ∀ message, P ⟨.ambiguousMatch, message, path⟩)
    (hmember : ∀ c ∈ s.allOfList, Finds P (child c v path)) :
    Finds P (checkComposition child s v path) := by
  have hmembers : Finds P (gather s.allOfList fun node => child node v path) := .gather hmember
  have hany : Finds P (checkAnyOf child s v path) := by
    unfold checkAnyOf
    split
    · exact .nil
    · exact .after fun _ => .ok (Finds.issueIf (hown _ _ (by decide)) _)
  have hone : Finds P (checkOneOf child s v path) := by
    unfold checkOneOf
    split
    · exact .nil
    next hsome =>
      refine .after fun count => ?_
      split
      · exact .ok (List.forall_mem_singleton.2 (hown _ _ (by decide)))
      · exact .ok (Finds.issueIf (hambiguous (mt List.isEmpty_iff.2 hsome) _) _)
  have hnot : Finds P (checkNot child s v path) := by
    unfold checkNot
    split
    · exact .nil
    · exact .after fun _ => .ok (Finds.issueIf (hown _ _ (by decide)) _)
  refine hmembers.bind fun all ha => hany.bind fun any hy => hone.bind fun one ho =>
    hnot.bind fun not hn => .ok ?_
  simp only [List.forall_mem_append]
  exact ⟨⟨⟨ha, hy⟩, ho⟩, hn⟩

/-- **Where issues come from**: a property holds of every issue that the check of a schema finds if
it holds of those about the value itself, of those about properties that must not be there, and of
those that the checks of parts and of members find. Of the issues about the value itself one says
that a match is ambiguous, and only where there is an exclusive choice. -/
lemma checkSchema_finds
    (hambiguous : s.oneOfList ≠ [] → ∀ message, P ⟨.ambiguousMatch, message, path⟩)
    (hextra : ∀ key w message, v.HasPartAt key w →
      P ⟨.unexpectedProperty, message, path ++ [key]⟩)
    (hpart : ∀ c ∈ s.partNodes, ∀ token w, v.HasPartAt token w →
      Finds P (child c w (path ++ [token])))
    (hmember : ∀ c ∈ s.allOfList, Finds P (child c v path)) :
    Finds P (checkSchema child s v path) := by
  have htype : ∀ i ∈ checkType s v path, P i := Finds.issueIf (hown _ _ (by decide)) _
  unfold checkSchema
  split
  · exact .nil
  · split
    · exact .ok (List.forall_mem_singleton.2 (hown _ _ (by decide)))
    · refine (checkScalar_finds hown s v).bind fun scalar hs =>
        (checkObject_finds hown hextra hpart).bind fun object ho =>
          (checkArray_finds hown hpart).bind fun array ha =>
            (checkComposition_finds hown hambiguous hmember).bind fun composition hc => .ok ?_
      simp only [List.forall_mem_append]
      exact ⟨⟨⟨⟨⟨htype, checkEnum_finds hown s v⟩, hs⟩, ho⟩, ha⟩, hc⟩

end

end

/-! ## Ambiguous matches -/

/-- **Checks are ambiguous only at exclusive choices**: if there is none along parts and members,
then at no depth does the check of a node find that a match is ambiguous. -/
theorem checkNode_unambiguous (registry : Registry) (limit : Int) (depth : Nat) {node : Node}
    (hs : ∀ s, registry.Reaches Keywords.reportingNodes node s → s.oneOfList = []) (v : Value)
    (path : Path) : Unambiguous (checkNode registry limit depth node v path) := by
  induction depth, node using registry.node_induction generalizing v path with
  | zero node => rintro is ⟨⟩
  | unknown depth name hget =>
    rw [checkNode_unknown hget]
    exact Finds.ok (by simp)
  | named depth name s hget ih =>
    rw [checkNode_named hget]
    exact ih (fun t ht => hs t (.ref hget ht)) v path
  | link depth name other hget ih =>
    rw [checkNode_link hget]
    exact ih (fun t ht => hs t (.ref hget ht)) v path
  | schema depth s ih =>
    have hchild : ∀ c ∈ s.reportingNodes, ∀ v path,
        Unambiguous (checkNode registry limit depth c v path) :=
      fun c hc v path => ih c (fun t ht => hs t (.child hc ht)) v path
    refine checkSchema_finds (fun kind message hkind => hkind) ?_ (fun key w message _ => ?_) ?_ ?_
    · exact fun hone => absurd (hs s (.here s)) hone
    · exact fun h => IssueKind.noConfusion h
    · exact fun c hc token w _ => hchild c (List.mem_append_left _ hc) w _
    · exact fun c hc => hchild c (List.mem_append_right _ hc) v path

end Validation

end DataSchema
