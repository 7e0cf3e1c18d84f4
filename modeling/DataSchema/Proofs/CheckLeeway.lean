import DataSchema.Proofs.Leeway
import DataSchema.Proofs.Keywords
import DataSchema.Proofs.Reachability
import DataSchema.Proofs.NodeSteps

set_option autoImplicit false

/-!
# Checks side by side

Each group of keywords makes related checks out of related checks of child nodes, and so does a
whole schema. A check with more depth left, or of a value that stands elsewhere, therefore finds
the same issues at corresponding locations, unless the first stops at the depth guard.

## Main definitions

* `DataSchema.Leeway.Found` — related checks that find issues.
* `DataSchema.Leeway.deeper` — the leeway of a run at another place with more depth left.

## Main results

* `DataSchema.Leeway.checkSchema` — related checks of the nodes below a schema make related checks
  of the schema.
* `DataSchema.Validation.checkNode_deeper` — checks at different depths and places.
* `DataSchema.Validation.checkNode_mono` — what a check finds, it finds with more depth left.
* `DataSchema.Validation.checkNode_elsewhere` — where nothing is found, nothing is found elsewhere.
-/

namespace DataSchema

namespace Leeway

open Validation

variable {L : Leeway} {p q : Path}

/-- Related checks that find issues. -/
abbrev Found (L : Leeway) (x y : Check) : Prop := L.SameChecks (List.Forall₂ L.SameIssues) x y

/-- Related checks of a node at all corresponding locations. -/
def FoundAt (L : Leeway) (child₁ child₂ : NodeChecker) (node : Node) : Prop :=
  ∀ v p q, L.place p q → L.Found (child₁ node v p) (child₂ node v q)

/-! ## Issues -/

/-- One issue each at corresponding locations. -/
lemma sameIssues_singleton (h : L.place p q) (kind : IssueKind) (message : String) :
    List.Forall₂ L.SameIssues [⟨kind, message, p⟩] [⟨kind, message, q⟩] :=
  .cons ⟨rfl, rfl, h⟩ .nil

/-- An issue each at corresponding locations, if a condition holds. -/
lemma sameIssues_issueIf (h : L.place p q) (holds : Bool) (kind : IssueKind) (message : String) :
    List.Forall₂ L.SameIssues (issueIf holds ⟨kind, message, p⟩)
      (issueIf holds ⟨kind, message, q⟩) := by
  cases holds with
  | true => exact sameIssues_singleton h kind message
  | false => exact .nil

/-- Related checks of each of several things. -/
lemma gather {α : Type} {xs : List α} {f g : α → Check} (h : ∀ x ∈ xs, L.Found (f x) (g x)) :
    L.Found (gather xs f) (gather xs g) :=
  (SameChecks.mapM h).map fun _ _ h => List.rel_flatten h

/-! ## Types, enumerations, texts and numbers -/

/-- The type is checked alike. -/
lemma checkType (h : L.place p q) (s : Schema) (v : Value) :
    List.Forall₂ L.SameIssues (checkType s v p) (checkType s v q) :=
  sameIssues_issueIf h _ _ _

/-- The enumeration is checked alike. -/
lemma checkEnum (h : L.place p q) (s : Schema) (v : Value) :
    List.Forall₂ L.SameIssues (checkEnum s v p) (checkEnum s v q) := by
  unfold Validation.checkEnum
  split
  · exact .nil
  · exact sameIssues_issueIf h _ _ _

/-- A text is checked alike. -/
lemma checkText (h : L.place p q) (s : Schema) (text : String) :
    L.Found (checkText s text p) (checkText s text q) := by
  rw [checkText_eq, checkText_eq]
  refine .bind_same fun short => .bind_same fun long => .bind_same fun missing => .ok ?_
  exact List.rel_append (List.rel_append (sameIssues_issueIf h _ _ _)
    (sameIssues_issueIf h _ _ _)) (sameIssues_issueIf h _ _ _)

/-- A bound is checked alike. -/
lemma checkBound (h : L.place p q) (n : Number) (v bound exclusive : Value)
    (strictly weakly : Number → Number → Bool) (excludedWords includedWords : String) :
    L.Found (checkBound n v bound exclusive strictly weakly excludedWords includedWords p)
      (checkBound n v bound exclusive strictly weakly excludedWords includedWords q) := by
  rw [checkBound_eq, checkBound_eq]
  split
  · exact .ok .nil
  · refine (SameChecks.refl (fun _ => rfl) _).map (R := Eq) fun b _ hb => ?_
    subst hb
    unfold boundIssues
    dsimp only
    split
    · exact sameIssues_singleton h _ _
    · exact sameIssues_issueIf h _ _ _

/-- A divisor is checked alike. -/
lemma checkMultiple (h : L.place p q) (n : Number) (v divisor : Value) :
    L.Found (checkMultiple n v divisor p) (checkMultiple n v divisor q) := by
  unfold Validation.checkMultiple
  split
  · exact .ok .nil
  · split
    · exact .error (.refl _)
    · split
      · exact .ok (sameIssues_issueIf h _ _ _)
      · exact .error (.refl _)

/-- A number is checked alike. -/
lemma checkNumber (h : L.place p q) (s : Schema) (n : Number) (v : Value) :
    L.Found (checkNumber s n v p) (checkNumber s n v q) := by
  unfold Validation.checkNumber
  refine (checkBound h n v _ _ _ _ _ _).bind fun low low' hlow => ?_
  refine (checkBound h n v _ _ _ _ _ _).bind fun high high' hhigh => ?_
  refine (checkMultiple h n v _).bind fun multiple multiple' hmultiple => ?_
  exact .ok (List.rel_append (List.rel_append hlow hhigh) hmultiple)

/-- The format is checked alike. -/
lemma checkFormatKeyword (h : L.place p q) (s : Schema) (v : Value) :
    L.Found (checkFormatKeyword s v p) (checkFormatKeyword s v q) := by
  rw [checkFormatKeyword_eq, checkFormatKeyword_eq]
  refine (SameChecks.refl (fun _ => rfl) _).map (R := Eq) fun reason? _ hreason => ?_
  subst hreason
  cases reason? with
  | none => exact .nil
  | some reason => exact sameIssues_singleton h _ _

/-- A value that is neither an object nor an array is checked alike. -/
lemma checkScalar (h : L.place p q) (s : Schema) (v : Value) :
    L.Found (checkScalar s v p) (checkScalar s v q) := by
  rw [checkScalar_eq, checkScalar_eq]
  have htext : L.Found (textIssues s v p) (textIssues s v q) := by
    unfold textIssues
    split
    · exact checkText h s _
    · exact .ok .nil
  have hnumber : L.Found (numberIssues s v p) (numberIssues s v q) := by
    unfold numberIssues
    split
    · exact checkNumber h s _ v
    · exact .ok .nil
  refine htext.bind fun text text' ht => hnumber.bind fun number number' hn => ?_
  refine (checkFormatKeyword h s v).bind fun format format' hf => ?_
  exact .ok (List.rel_append (List.rel_append ht hn) hf)

/-! ## Objects and arrays -/

variable {child₁ child₂ : NodeChecker} {s : Schema}

/-- Declared properties are checked alike. -/
lemma checkProperties (hchild : ∀ c ∈ s.children, L.FoundAt child₁ child₂ c) (h : L.place p q)
    (data : Entries) :
    L.Found (checkProperties child₁ s data p) (checkProperties child₂ s data q) := by
  refine gather fun d hd => ?_
  split
  · exact hchild _ (Keywords.mem_children_of_part (Keywords.mem_partNodes_declared hd)) _ _ _
      (L.place_step h _)
  · exact .ok .nil

/-- Required names are checked alike. -/
lemma checkRequiredName (h : L.place p q) (data : Entries) (name : Value) :
    L.Found (checkRequiredName data p name) (checkRequiredName data q name) := by
  unfold Validation.checkRequiredName
  split
  · exact .error (.refl _)
  · exact .ok (sameIssues_issueIf h _ _ _)

/-- Undeclared properties are checked alike. -/
lemma checkAdditional (hchild : ∀ c ∈ s.children, L.FoundAt child₁ child₂ c) (h : L.place p q)
    (data : Entries) :
    L.Found (checkAdditional child₁ s data p) (checkAdditional child₂ s data q) := by
  unfold Validation.checkAdditional
  split
  · exact .ok .nil
  · exact .ok .nil
  · refine .ok (List.forall₂_map_left_iff.2 (List.forall₂_map_right_iff.2 ?_))
    exact List.forall₂_same.2 fun e _ => ⟨rfl, rfl, L.place_step h _⟩
  next node hnode =>
    exact gather fun e _ =>
      hchild _ (Keywords.mem_children_of_part (Keywords.mem_partNodes_additional hnode)) _ _ _
        (L.place_step h _)

/-- The number of properties is checked alike. -/
lemma checkPropertyCount (h : L.place p q) (s : Schema) (count : Nat) :
    L.Found (checkPropertyCount s count p) (checkPropertyCount s count q) := by
  unfold Validation.checkPropertyCount
  refine .bind_same fun few => .bind_same fun many => .ok ?_
  exact List.rel_append (sameIssues_issueIf h _ _ _) (sameIssues_issueIf h _ _ _)

/-- An object is checked alike. -/
lemma checkObject (hchild : ∀ c ∈ s.children, L.FoundAt child₁ child₂ c) (h : L.place p q)
    (v : Value) : L.Found (checkObject child₁ s v p) (checkObject child₂ s v q) := by
  unfold Validation.checkObject
  split
  · exact .ok .nil
  next data _ =>
    refine (checkProperties hchild h data).bind fun declared declared' hdeclared => ?_
    refine (gather fun name _ => checkRequiredName h data name).bind
      fun required required' hrequired => ?_
    refine (checkAdditional hchild h data).bind fun additional additional' hadditional => ?_
    refine (checkPropertyCount h s _).bind fun count count' hcount => ?_
    exact .ok (List.rel_append (List.rel_append (List.rel_append hdeclared hrequired)
      hadditional) hcount)

/-- Items are checked alike. -/
lemma checkItems (hchild : ∀ c ∈ s.children, L.FoundAt child₁ child₂ c) (h : L.place p q)
    (items : List Value) : L.Found (checkItems child₁ s items p) (checkItems child₂ s items q) := by
  unfold Validation.checkItems
  split
  · exact .ok .nil
  next node hnode =>
    exact gather fun item _ =>
      hchild _ (Keywords.mem_children_of_part (Keywords.mem_partNodes_items hnode)) _ _ _
        (L.place_step h _)

/-- The number of items is checked alike. -/
lemma checkItemCount (h : L.place p q) (s : Schema) (count : Nat) :
    L.Found (checkItemCount s count p) (checkItemCount s count q) := by
  unfold Validation.checkItemCount
  refine .bind_same fun few => .bind_same fun many => .ok ?_
  exact List.rel_append (sameIssues_issueIf h _ _ _) (sameIssues_issueIf h _ _ _)

/-- Repeated items are found alike. -/
lemma checkUnique (h : L.place p q) (s : Schema) (items : List Value) :
    List.Forall₂ L.SameIssues (checkUnique s items p) (checkUnique s items q) := by
  unfold Validation.checkUnique
  split
  · split
    · exact sameIssues_singleton h _ _
    · exact .nil
  · exact .nil

/-- An array is checked alike. -/
lemma checkArray (hchild : ∀ c ∈ s.children, L.FoundAt child₁ child₂ c) (h : L.place p q)
    (v : Value) : L.Found (checkArray child₁ s v p) (checkArray child₂ s v q) := by
  unfold Validation.checkArray
  split
  · exact .ok .nil
  next items _ =>
    refine (checkItems hchild h items).bind fun each each' heach => ?_
    refine (checkItemCount h s _).bind fun count count' hcount => ?_
    exact .ok (List.rel_append (List.rel_append heach hcount) (checkUnique h s items))

/-! ## Composition -/

/-- Whether a value conforms to a node comes out alike. -/
lemma conforms {c : Node} (hchild : L.FoundAt child₁ child₂ c) (h : L.place p q) (v : Value) :
    L.SameChecks Eq (Validation.conforms child₁ c v p) (Validation.conforms child₂ c v q) := by
  refine (hchild v p q h).map fun is js hij => ?_
  cases hij <;> rfl

/-- Whether a value conforms to one of several nodes comes out alike. -/
lemma conformsToAny {nodes : List Node} (hchild : ∀ c ∈ nodes, L.FoundAt child₁ child₂ c)
    (h : L.place p q) (v : Value) :
    L.SameChecks Eq (conformsToAny child₁ v p nodes) (conformsToAny child₂ v q nodes) := by
  induction nodes with
  | nil => exact .ok rfl
  | cons c cs ih =>
    refine (Leeway.conforms (hchild c List.mem_cons_self) h v).bind fun one one' hone => ?_
    subst hone
    cases one with
    | true => exact .ok rfl
    | false => exact ih fun c' hc' => hchild c' (List.mem_cons_of_mem c hc')

/-- The number of nodes that a value conforms to comes out alike. -/
lemma conformingCount {nodes : List Node} (hchild : ∀ c ∈ nodes, L.FoundAt child₁ child₂ c)
    (h : L.place p q) (v : Value) :
    L.SameChecks Eq (conformingCount child₁ v p nodes) (conformingCount child₂ v q nodes) := by
  induction nodes with
  | nil => exact .ok rfl
  | cons c cs ih =>
    refine (Leeway.conforms (hchild c List.mem_cons_self) h v).bind fun one one' hone => ?_
    refine (ih fun c' hc' => hchild c' (List.mem_cons_of_mem c hc')).bind
      fun others others' hothers => ?_
    subst hone hothers
    exact .ok rfl

/-- Alternatives are checked alike. -/
lemma checkAnyOf (hchild : ∀ c ∈ s.children, L.FoundAt child₁ child₂ c) (h : L.place p q)
    (v : Value) : L.Found (checkAnyOf child₁ s v p) (checkAnyOf child₂ s v q) := by
  unfold Validation.checkAnyOf
  split
  · exact .ok .nil
  · have hany : ∀ c ∈ s.anyOfList, L.FoundAt child₁ child₂ c := fun c hc =>
      hchild c (Keywords.mem_children_of_same (Keywords.mem_sameNodes_anyOf hc))
    refine (conformsToAny hany h v).bind fun any any' hb => ?_
    subst hb
    exact .ok (sameIssues_issueIf h _ _ _)

/-- Alternatives that exclude each other are checked alike. -/
lemma checkOneOf (hchild : ∀ c ∈ s.children, L.FoundAt child₁ child₂ c) (h : L.place p q)
    (v : Value) : L.Found (checkOneOf child₁ s v p) (checkOneOf child₂ s v q) := by
  unfold Validation.checkOneOf
  split
  · exact .ok .nil
  · have hone : ∀ c ∈ s.oneOfList, L.FoundAt child₁ child₂ c := fun c hc =>
      hchild c (Keywords.mem_children_of_same (Keywords.mem_sameNodes_oneOf hc))
    refine (conformingCount hone h v).bind fun count count' hcount => ?_
    subst hcount
    split
    · exact .ok (sameIssues_singleton h _ _)
    · exact .ok (sameIssues_issueIf h _ _ _)

/-- The schema that must not match is checked alike. -/
lemma checkNot (hchild : ∀ c ∈ s.children, L.FoundAt child₁ child₂ c) (h : L.place p q)
    (v : Value) : L.Found (checkNot child₁ s v p) (checkNot child₂ s v q) := by
  unfold Validation.checkNot
  split
  · exact .ok .nil
  next node hnode =>
    have hnot := hchild node (Keywords.mem_children_of_same (Keywords.mem_sameNodes_not hnode))
    refine (Leeway.conforms hnot h v).bind fun matching matching' hb => ?_
    subst hb
    exact .ok (sameIssues_issueIf h _ _ _)

/-- Composition is checked alike. -/
lemma checkComposition (hchild : ∀ c ∈ s.children, L.FoundAt child₁ child₂ c) (h : L.place p q)
    (v : Value) : L.Found (checkComposition child₁ s v p) (checkComposition child₂ s v q) := by
  unfold Validation.checkComposition
  have hall : ∀ c ∈ s.allOfList, L.Found (child₁ c v p) (child₂ c v q) := fun c hc =>
    hchild c (Keywords.mem_children_of_same (Keywords.mem_sameNodes_allOf hc)) v p q h
  refine (gather hall).bind fun all all' hall => ?_
  refine (checkAnyOf hchild h v).bind fun any any' hany => ?_
  refine (checkOneOf hchild h v).bind fun one one' hone => ?_
  refine (checkNot hchild h v).bind fun not not' hnot => ?_
  exact .ok (List.rel_append (List.rel_append (List.rel_append hall hany) hone) hnot)

/-! ## Schemas and nodes -/

/-- All keywords are checked alike. -/
lemma checkKeywords (hchild : ∀ c ∈ s.children, L.FoundAt child₁ child₂ c) (h : L.place p q)
    (v : Value) : L.Found (checkKeywords child₁ s v p) (checkKeywords child₂ s v q) := by
  unfold Validation.checkKeywords
  refine (checkScalar h s v).bind fun scalar scalar' hscalar => ?_
  refine (checkObject hchild h v).bind fun object object' hobject => ?_
  refine (checkArray hchild h v).bind fun array array' harray => ?_
  refine (checkComposition hchild h v).bind fun composition composition' hcomposition => ?_
  have hown := List.rel_append (checkType h s v) (checkEnum h s v)
  exact .ok (List.rel_append (List.rel_append (List.rel_append (List.rel_append hown
    hscalar) hobject) harray) hcomposition)

/-- **Schemas are checked alike**, given that the nodes below them are. -/
lemma checkSchema (hchild : ∀ c ∈ s.children, L.FoundAt child₁ child₂ c) (h : L.place p q)
    (v : Value) : L.Found (checkSchema child₁ s v p) (checkSchema child₂ s v q) := by
  unfold Validation.checkSchema
  split
  · exact .ok .nil
  · split
    · exact .ok (sameIssues_singleton h _ _)
    · exact checkKeywords hchild h v

/-- The leeway of a second run that stands elsewhere and has more depth left: the first is excused
where it stops at the depth guard. -/
def deeper (base base' : Path) : Leeway where
  place p q := ∃ rest, p = base ++ rest ∧ q = base' ++ rest
  place_step := by
    rintro p q ⟨rest, rfl, rfl⟩ token
    exact ⟨rest ++ [token], List.append_assoc .., List.append_assoc ..⟩
  fault f := f.isTooDeep = true
  event _ := False

end Leeway

namespace Validation

open Leeway

/-- **Depth and place do not matter**: with at least as much depth left, a node is checked alike
elsewhere, unless the first check stops at the depth guard.

**Proof sketch.** Induction on the smaller depth. At depth zero the first check is excused; below a
node both checks look at the same schema, with related checks of the nodes below it. -/
theorem checkNode_deeper (registry : Registry) (limit limit' : Int) (base base' : Path)
    {depth depth' : Nat} (hdepth : depth ≤ depth') (node : Node) :
    (deeper base base').FoundAt (checkNode registry limit depth) (checkNode registry limit' depth')
      node := by
  induction depth, node using registry.node_induction generalizing depth' with
  | zero node => exact fun v p q _ => .excused rfl
  | unknown depth name hget =>
    obtain ⟨more, rfl⟩ := Nat.exists_eq_add_of_lt hdepth
    intro v p q hpq
    rw [checkNode_unknown hget, checkNode_unknown hget]
    exact .ok (sameIssues_singleton hpq _ _)
  | named depth name s hget ih =>
    intro v p q hpq
    rw [checkNode_named hget, checkNode_named hget]
    exact ih hdepth v p q hpq
  | link depth name other hget ih =>
    obtain ⟨more, rfl⟩ := Nat.exists_eq_add_of_lt hdepth
    intro v p q hpq
    rw [checkNode_link hget, checkNode_link hget]
    exact ih (Nat.le_add_right depth more) v p q hpq
  | schema depth s ih =>
    obtain ⟨more, rfl⟩ := Nat.exists_eq_add_of_lt hdepth
    intro v p q hpq
    exact Leeway.checkSchema (fun c _ => ih c (Nat.le_add_right depth more)) hpq v

/-- **Depth does not change what is found**: issues found with some depth left are found with
more. -/
theorem checkNode_mono {registry : Registry} {limit limit' : Int} {depth depth' : Nat}
    (hdepth : depth ≤ depth') {node : Node} {v : Value} {path : Path} {is : List Issue}
    (h : checkNode registry limit depth node v path = .ok is) :
    checkNode registry limit' depth' node v path = .ok is := by
  have hsame :=
    checkNode_deeper registry limit limit' [] [] hdepth node v path path ⟨path, rfl, rfl⟩
  obtain ⟨js, hjs, hij⟩ := hsame.eq_ok h
  have heq : is = js := by
    refine List.forall₂_eq_eq_eq ▸ hij.imp fun i j hi => ?_
    obtain ⟨hkind, hmessage, rest, hp, hq⟩ := hi
    cases i
    cases j
    simp_all
  rw [heq, hjs]

/-- **Nothing is found elsewhere either**: a node in which nothing is found at one place finds
nothing at any. -/
theorem checkNode_elsewhere {registry : Registry} {limit : Int} {depth : Nat} {node : Node}
    {v : Value} {path : Path} (h : checkNode registry limit depth node v path = .ok [])
    (path' : Path) : checkNode registry limit depth node v path' = .ok [] := by
  have hsame := checkNode_deeper registry limit limit path path' (Nat.le_refl depth) node v path
    path' ⟨[], by rw [List.append_nil], by rw [List.append_nil]⟩
  obtain ⟨js, hjs, hnone⟩ := hsame.eq_ok h
  rw [hjs, List.forall₂_nil_left_iff.1 hnone]

end Validation

end DataSchema
