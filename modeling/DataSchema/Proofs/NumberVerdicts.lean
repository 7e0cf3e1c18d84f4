import DataSchema.Proofs.Alternatives
import DataSchema.Proofs.NumberKinds
import DataSchema.Proofs.Relocation

set_option autoImplicit false

/-!
# Verdicts on whole numbers and doubles

Validation does not see whether a whole number that is exactly a double is one, up to two keywords.
A format of whole numbers passes over doubles, so the range of 32 bits is asked for whole numbers
alone; and the quotient of two whole numbers is rounded once, while a double is divided by the
divisor's own double, so a divisor that is no double tells the two apart. Where a schema takes a
whole number and its double alike, so does every keyword of it, and values that differ in the kind
of such numbers alone come to an issue or not alike.

## Main definitions

* `DataSchema.Keywords.TakesAlike` — schemas that do not tell a whole number from its double.
* `DataSchema.Validation.SeesNoKind` — checkers that do not tell values with the same numbers apart.

## Main results

* `DataSchema.Validation.checkSchema_sameNumbers` — verdicts of a schema, given those of its child
  nodes.
* `DataSchema.Validation.checkNode_sameNumbers` — verdicts of a node, at every depth.
* `DataSchema.Keywords.takesAlike_of_representable` — divisors that are doubles tell nothing apart.
* `DataSchema.validate_sameNumbers` — verdicts on whole values, and the keywords that part them.
-/

namespace DataSchema

/-- A schema takes a whole number and its double alike: a range of 32 bits holds the number, and
whenever both are divided by what the schema asks a multiple of, both are multiples or neither. -/
structure Keywords.TakesAlike (s : Schema) (n : Int) : Prop where
  /-- The number lies within the range that is asked for. -/
  format : s.format = .str "int32" → fitsSigned 32 n = true
  /-- Both are multiples or neither. -/
  multiple : ∀ d, s.multipleOf.operand? = some d →
    Agree Eq ((Number.int n).isMultiple d) ((Number.float (.ofInt n)).isMultiple d)

/-- The double of a small whole number is that whole number. -/
lemma Binary64.toInt?_ofInt {n : Int} (h : n.natAbs ≤ 2 ^ 53) : (ofInt n).toInt? = some n := by
  have hextent := Value.SameNumbers.extent?_ofInt h
  rw [ofInt_of_representable (representable_mul_one h)] at hextent ⊢
  have hunits : (if decide (n < 0) = true then -((n.natAbs * one : Nat) : Int)
      else ((n.natAbs * one : Nat) : Int)) = n * one := by
    have hat := Option.some.inj hextent
    exact (Extent.at.inj hat).symm
  have hone : (one : Int) ≠ 0 := Int.natCast_ne_zero.2 one_pos.ne'
  unfold toInt? units?
  dsimp only
  rw [hunits, if_pos (Int.mul_emod_left n one), Int.mul_ediv_cancel n hone]

namespace Validation

variable {N : Int → Prop} {child : NodeChecker} {s : Schema} {v w : Value} {es fs : Entries}
  {vs ws : List Value} {path : Path}

/-- A checker of a node does not tell values with the same numbers apart, wherever they stand. -/
def SeesNoKind (N : Int → Prop) (child : NodeChecker) (c : Node) : Prop :=
  ∀ v w p q, v.SameNumbers N w → AgreeOnNone (child c v p) (child c w q)

/-- A check comes to no issue like itself. -/
lemma agreeOnNone_same (x : Check) : AgreeOnNone x x :=
  (Agree.same x).mono fun _ _ heq => congrArg List.isEmpty heq

/-- Checks of several things come to no issue alike if they do thing by thing. -/
lemma gather_agreeOnNone {α β : Type} {P : α → β → Prop} {f : α → Check} {g : β → Check}
    {xs : List α} {zs : List β} (h : List.Forall₂ P xs zs)
    (hfg : ∀ x z, P x z → AgreeOnNone (f x) (g z)) : AgreeOnNone (gather xs f) (gather zs g) := by
  refine (Agree.mapM h hfg).map fun parts parts' hparts => ?_
  induction hparts with
  | nil => rfl
  | cons hfirst _ ih => exact Follows.append hfirst ih

/-! ## Types and enumerations -/

/-- Values with the same numbers are of the same types. -/
lemma hasType_sameNumbers (h : v.SameNumbers N w) : hasType s v = hasType s w := by
  rw [Conformance.hasType_eq_meetsType, Conformance.hasType_eq_meetsType]
  cases h with
  | same v => rfl
  | number hn _ =>
    unfold Conformance.meetsType
    cases s.type with
    | none => rfl
    | some t =>
      cases t with
      | integer => simp [Value.isInteger, Binary64.toInt?_ofInt hn]
      | _ => rfl
  | list _ _ | tuple _ _ | mapping _ _ _ | record _ _ _ | openRecord _ _ _ =>
    unfold Conformance.meetsType
    cases s.type with
    | none => rfl
    | some t => cases t <;> rfl

/-- A type is right for both values or for neither. -/
lemma checkType_sameNumbers (h : v.SameNumbers N w) :
    (checkType s v path).isEmpty = (checkType s w path).isEmpty := by
  rw [checkType, checkType, hasType_sameNumbers h]
  cases hasType s w <;> rfl

/-- Both values are among those that are allowed, or neither. -/
lemma checkEnum_sameNumbers (h : v.SameNumbers N w) :
    (checkEnum s v path).isEmpty = (checkEnum s w path).isEmpty := by
  unfold checkEnum
  cases s.enum with
  | none => rfl
  | some members =>
    have hsame : members.any v.jsonEqual = members.any w.jsonEqual :=
      congrArg members.any (funext h.seenAlike_jsonEqual.1)
    dsimp only
    rw [hsame]
    cases members.any w.jsonEqual <;> rfl

/-! ## Numbers and formats -/

/-- Numbers that a bound does not tell apart violate it alike. -/
lemma checkBound_agree {n m : Number} {strictly weakly : Number → Number → Bool}
    (hstrict : strictly n = strictly m) (hweak : weakly n = weakly m) (bound exclusive : Value)
    (excludedWords includedWords : String) :
    AgreeOnNone
      (checkBound n v bound exclusive strictly weakly excludedWords includedWords path)
      (checkBound m w bound exclusive strictly weakly excludedWords includedWords path) := by
  rw [checkBound_eq, checkBound_eq]
  split
  · exact agreeOnNone_same _
  · refine (Agree.same _).map ?_
    rintro b _ rfl
    unfold boundIssues
    rw [hstrict, hweak]
    cases exclusive.isTruthy && weakly m b <;> cases strictly m b <;> rfl

/-- Numbers that are multiples alike are reported alike. -/
lemma checkMultiple_agree {n m : Number} {divisor : Value}
    (h : ∀ d, divisor.operand? = some d → Agree Eq (n.isMultiple d) (m.isMultiple d)) :
    AgreeOnNone (checkMultiple n v divisor path) (checkMultiple m w divisor path) := by
  unfold checkMultiple
  cases divisor.isTruthy with
  | false => exact agreeOnNone_same _
  | true =>
    cases hd : divisor.operand? with
    | none => exact agreeOnNone_same _
    | some d =>
      dsimp only
      cases hn : n.isMultiple d with
      | error f => exact fun is js his => by cases his
      | ok a =>
        cases hm : m.isMultiple d with
        | error f => exact fun is js _ hjs => by cases hjs
        | ok b =>
          obtain rfl := h d hd a b hn hm
          exact .ok (by cases a <;> rfl)

/-- Numbers in one place stand alike to other numbers. -/
lemma order_congr {n m : Number} (h : n.extent? = m.extent?) :
    n.less = m.less ∧ n.atMost = m.atMost ∧
      (fun b : Number => b.less n) = (fun b => b.less m) ∧
      (fun b : Number => b.atMost n) = fun b => b.atMost m := by
  refine ⟨funext fun b => ?_, funext fun b => ?_, funext fun b => ?_, funext fun b => ?_⟩ <;>
    simp only [Number.atMost, Number.less, Number.equal, h]

/-- Numbers in one place that are multiples alike have issues with bounds and divisors alike. -/
lemma checkNumber_agree {n m : Number} (h : n.extent? = m.extent?)
    (hmultiple : ∀ d, s.multipleOf.operand? = some d → Agree Eq (n.isMultiple d) (m.isMultiple d)) :
    AgreeOnNone (checkNumber s n v path) (checkNumber s m w path) := by
  obtain ⟨hless, hatMost, hmore, hatLeast⟩ := order_congr h
  refine (checkBound_agree hless hatMost _ _ _ _).bind fun low low' hlow => ?_
  refine (checkBound_agree hmore hatLeast _ _ _ _).bind fun high high' hhigh => ?_
  refine (checkMultiple_agree hmultiple).bind fun multiple multiple' hmultiple => ?_
  exact .ok (Follows.append (Follows.append hlow hhigh) hmultiple)

/-- The name of the format of 32 bits. -/
lemma eq_of_ofName?_int32 {name : String} (h : KnownFormat.ofName? name = some .int32) :
    name = "int32" := by
  unfold KnownFormat.ofName? at h
  split at h <;> first | rfl | cases h

/-- A format says the same of two values if the known formats do. -/
lemma checkFormat_congr {format : Value} (h : ∀ name known, format = .str name →
    KnownFormat.ofName? name = some known → checkKnown name known v = checkKnown name known w) :
    checkFormat v format = checkFormat w format := by
  cases format with
  | str name =>
    cases hname : KnownFormat.ofName? name with
    | none => simp only [checkFormat, hname]
    | some known => simp only [checkFormat, hname, h name known rfl hname]
  | _ => rfl

/-- A format says the same of a small whole number and a double, if the number is in range. -/
lemma checkFormat_double {n : Int} (hn : n.natAbs ≤ 2 ^ 53) (x : Binary64) {format : Value}
    (hformat : format = .str "int32" → fitsSigned 32 n = true) :
    checkFormat (.int n) format = checkFormat (.float x) format := by
  refine checkFormat_congr ?_
  rintro name known rfl hname
  cases known with
  | int32 =>
    obtain rfl := eq_of_ofName?_int32 hname
    simp only [checkKnown, outOfRange, hformat rfl, if_true]
  | int64 =>
    have hfits : fitsSigned 64 n = true := by
      rw [fitsSigned, Bool.and_eq_true, decide_eq_true_eq, decide_eq_true_eq]
      norm_num
      omega
    simp only [checkKnown, outOfRange, hfits, if_true]
  | _ => rfl

/-- Keywords for scalars say the same of values that are neither texts nor numbers. -/
lemma checkScalar_others (hv : v.str? = none ∧ v.number? = none)
    (hw : w.str? = none ∧ w.number? = none) :
    AgreeOnNone (checkScalar s v path) (checkScalar s w path) := by
  have hothers : ∀ u : Value, u.str? = none ∧ u.number? = none →
      textIssues s u path = .ok [] ∧ numberIssues s u path = .ok [] ∧
        ∀ name known, checkKnown name known u = .ok none := by
    rintro u ⟨hstr, hnumber⟩
    refine ⟨?_, by rw [numberIssues, hnumber], fun name known => ?_⟩
    · cases u <;> simp_all [textIssues, Value.str?]
    · cases u <;> simp [Value.str?, Value.number?] at hstr hnumber <;> cases known <;> rfl
  obtain ⟨htext, hnumber, hknown⟩ := hothers v hv
  obtain ⟨htext', hnumber', hknown'⟩ := hothers w hw
  have hformat : checkFormat v s.format = checkFormat w s.format :=
    checkFormat_congr fun name known _ _ => (hknown name known).trans (hknown' name known).symm
  rw [checkScalar_eq, checkScalar_eq, checkFormatKeyword_eq, checkFormatKeyword_eq, htext, htext',
    hnumber, hnumber', hformat]
  exact agreeOnNone_same _

/-- Values with the same numbers have issues with keywords for scalars alike. -/
lemma checkScalar_sameNumbers (hs : ∀ n, N n → s.TakesAlike n) (h : v.SameNumbers N w) :
    AgreeOnNone (checkScalar s v path) (checkScalar s w path) := by
  cases h with
  | same v => exact agreeOnNone_same _
  | @number n hn hN =>
    have hformat := checkFormat_double hn (.ofInt n) (hs n hN).format
    have hextent := Value.SameNumbers.extent?_ofInt hn
    have hmultiple := (hs n hN).multiple
    generalize Binary64.ofInt n = x at hformat hextent hmultiple ⊢
    rw [checkScalar_eq, checkScalar_eq, checkFormatKeyword_eq, checkFormatKeyword_eq, hformat]
    refine (agreeOnNone_same (.ok [])).bind fun text text' htext => ?_
    refine (checkNumber_agree hextent hmultiple).bind fun number number' hnumber => ?_
    refine (agreeOnNone_same _).bind fun format format' hformat => ?_
    exact .ok (Follows.append (Follows.append htext hnumber) hformat)
  | list _ _ | tuple _ _ | mapping _ _ _ | record _ _ _ | openRecord _ _ _ =>
    exact checkScalar_others ⟨rfl, rfl⟩ ⟨rfl, rfl⟩

/-! ## Objects and arrays -/

/-- Declared properties have issues alike. -/
lemma checkProperties_sameNumbers (h : List.Forall₂ (Value.SameEntries N) es fs)
    (hchild : ∀ c ∈ s.partNodes, SeesNoKind N child c) :
    AgreeOnNone (checkProperties child s es path) (checkProperties child s fs path) := by
  refine gather_agreeOnNone (P := fun p q => p = q ∧ p ∈ s.declared)
    (List.forall₂_same.2 fun p hp => ⟨rfl, hp⟩) ?_
  rintro p _ ⟨rfl, hp⟩
  match es.get? (.str p.1), fs.get? (.str p.1), Value.SameNumbers.get?_rel h (.str p.1) with
  | _, _, .none => exact agreeOnNone_same _
  | _, _, .some hvw => exact hchild p.2 (Keywords.mem_partNodes_declared hp) _ _ _ _ hvw

/-- The same names are missing. -/
lemma checkRequiredName_sameNumbers (h : List.Forall₂ (Value.SameEntries N) es fs) :
    checkRequiredName es path = checkRequiredName fs path := by
  funext name
  rw [checkRequiredName, checkRequiredName, Value.SameNumbers.has_eq h]

/-- The entries that are not declared have the same numbers. -/
lemma undeclared_sameNumbers (h : List.Forall₂ (Value.SameEntries N) es fs) :
    List.Forall₂ (Value.SameEntries N) (undeclared s es) (undeclared s fs) := by
  refine List.rel_filter (fun e f hef => ?_) h
  have hdeclares : s.declares e.1 = s.declares f.1 :=
    congrArg s.declared.any (funext fun p => hef.1.seenAlike_equal.1 (.str p.1))
  exact iff_of_eq (congrArg (fun declared => (!declared) = true) hdeclares)

/-- Undeclared properties have issues alike. Their keys, and so their places, need not be the
same. -/
lemma checkAdditional_sameNumbers (h : List.Forall₂ (Value.SameEntries N) es fs)
    (hchild : ∀ c ∈ s.partNodes, SeesNoKind N child c) :
    AgreeOnNone (checkAdditional child s es path) (checkAdditional child s fs path) := by
  have hextra := undeclared_sameNumbers (s := s) h
  unfold checkAdditional
  split
  · exact agreeOnNone_same _
  · exact agreeOnNone_same _
  · refine .ok ?_
    rw [List.isEmpty_map, List.isEmpty_map, (Permuted.of_forall₂ hextra).isEmpty_eq]
  next node hnode =>
    refine gather_agreeOnNone hextra fun e f hef => ?_
    exact hchild node (Keywords.mem_partNodes_additional hnode) _ _ _ _ hef.2

/-- Objects have issues alike. -/
lemma checkObject_sameNumbers (h : v.SameNumbers N w)
    (hchild : ∀ c ∈ s.partNodes, SeesNoKind N child c) :
    AgreeOnNone (checkObject child s v path) (checkObject child s w path) := by
  unfold checkObject
  match v.objectView? s.required, w.objectView? s.required, h.objectView? s.required with
  | _, _, .none => exact agreeOnNone_same _
  | _, _, .some hes =>
    dsimp only
    rw [checkRequiredName_sameNumbers hes, hes.length_eq]
    refine (checkProperties_sameNumbers hes hchild).bind fun declared declared' hdeclared => ?_
    refine (agreeOnNone_same _).bind fun required required' hrequired => ?_
    refine (checkAdditional_sameNumbers hes hchild).bind fun additional additional' hextra => ?_
    refine (agreeOnNone_same _).bind fun count count' hcount => ?_
    exact .ok (Follows.append (Follows.append (Follows.append hdeclared hrequired) hextra) hcount)

/-- Items have issues alike. -/
lemma checkItems_sameNumbers (h : List.Forall₂ (Value.SameNumbers N) vs ws)
    (hchild : ∀ c ∈ s.partNodes, SeesNoKind N child c) :
    AgreeOnNone (checkItems child s vs path) (checkItems child s ws path) := by
  unfold checkItems
  split
  · exact agreeOnNone_same _
  next node hnode =>
    refine gather_agreeOnNone (forall₂_zipIdx h 0) fun x y hxy => ?_
    exact hchild node (Keywords.mem_partNodes_items hnode) _ _ _ _ hxy.1

/-- The first item that equals one before it stands at the same place. -/
lemma firstRepeated_sameNumbers {earlier earlier' : List Value}
    (hearlier : List.Forall₂ (Value.SameNumbers N) earlier earlier')
    (h : List.Forall₂ (Value.SameNumbers N) vs ws) (index : Nat) :
    firstRepeated earlier index vs = firstRepeated earlier' index ws := by
  induction h generalizing earlier earlier' index with
  | nil => rfl
  | @cons v w _ _ hfirst _ ih =>
    have hany : earlier.any v.jsonEqual = earlier'.any w.jsonEqual :=
      forall₂_any_eq hearlier fun x y hxy =>
        (hfirst.seenAlike_jsonEqual.1 x).trans (hxy.seenAlike_jsonEqual.2 w)
    rw [firstRepeated, firstRepeated, hany, ih (List.rel_append hearlier (.cons hfirst .nil))]

/-- The same items are repeated. -/
lemma checkUnique_sameNumbers (h : List.Forall₂ (Value.SameNumbers N) vs ws) :
    checkUnique s vs path = checkUnique s ws path := by
  rw [checkUnique, checkUnique, firstRepeated_sameNumbers .nil h 0]

/-- Arrays have issues alike. -/
lemma checkArray_sameNumbers (h : v.SameNumbers N w)
    (hchild : ∀ c ∈ s.partNodes, SeesNoKind N child c) :
    AgreeOnNone (checkArray child s v path) (checkArray child s w path) := by
  unfold checkArray
  match v.items?, w.items?, h.items? with
  | _, _, .none => exact agreeOnNone_same _
  | _, _, .some hvs =>
    dsimp only
    rw [checkUnique_sameNumbers hvs, hvs.length_eq]
    refine (checkItems_sameNumbers hvs hchild).bind fun each each' heach => ?_
    refine (agreeOnNone_same _).bind fun count count' hcount => ?_
    exact .ok (Follows.append (Follows.append heach hcount) rfl)

/-! ## Composition and nodes -/

/-- Compositions have issues alike. -/
lemma checkComposition_sameNumbers (h : v.SameNumbers N w)
    (hchild : ∀ c ∈ s.sameNodes, SeesNoKind N child c) :
    AgreeOnNone (checkComposition child s v path) (checkComposition child s w path) := by
  have hnone : ∀ n m, n = m ∧ n ∈ s.sameNodes →
      AgreeOnNone (child n v path) (child m w path) := by
    rintro n _ ⟨rfl, hn⟩
    exact hchild n hn v w path path h
  have hsame : ∀ {nodes : List Node}, (∀ n ∈ nodes, n ∈ s.sameNodes) →
      Permuted (fun n m => n = m ∧ n ∈ s.sameNodes) nodes nodes := fun hmem =>
    .of_forall₂ (List.forall₂_same.2 fun n hn => ⟨rfl, hmem n hn⟩)
  have hnot : Option.Rel (fun n m => n = m ∧ n ∈ s.sameNodes) s.notSchema s.notSchema := by
    cases hnode : s.notSchema with
    | none => exact .none
    | some node => exact .some ⟨rfl, Keywords.mem_sameNodes_not hnode⟩
  have hempty : ∀ {x y : Check}, Agree Eq x y → AgreeOnNone x y := fun hxy =>
    hxy.mono fun _ _ heq => congrArg List.isEmpty heq
  have hany := hempty (checkAnyOf_agree (s := s) (t := s)
    (hsame fun n => Keywords.mem_sameNodes_anyOf) hnone)
  have hone := hempty (checkOneOf_agree (s := s) (t := s)
    (hsame fun n => Keywords.mem_sameNodes_oneOf) hnone)
  have hnot := hempty (checkNot_agree hnot hnone)
  refine (gather_agreeOnNone (List.forall₂_same.2 fun n hn =>
    ⟨rfl, Keywords.mem_sameNodes_allOf hn⟩) hnone).bind fun all all' hall => ?_
  refine hany.bind fun any any' hany => hone.bind fun one one' hone => ?_
  refine hnot.bind fun not not' hnot => .ok ?_
  exact Follows.append (Follows.append (Follows.append hall hany) hone) hnot

/-- **A schema comes to an issue or not alike** with values that have the same numbers, if it takes
these numbers alike and the nodes below it do not tell such values apart. -/
lemma checkSchema_sameNumbers (hs : ∀ n, N n → s.TakesAlike n) (h : v.SameNumbers N w)
    (hchild : ∀ c ∈ s.children, SeesNoKind N child c) :
    AgreeOnNone (checkSchema child s v path) (checkSchema child s w path) := by
  have hparts : ∀ c ∈ s.partNodes, SeesNoKind N child c := fun c hc =>
    hchild c (Keywords.mem_children_of_part hc)
  have hnodes : ∀ c ∈ s.sameNodes, SeesNoKind N child c := fun c hc =>
    hchild c (Keywords.mem_children_of_same hc)
  have hkeywords : AgreeOnNone (checkKeywords child s v path) (checkKeywords child s w path) := by
    refine (checkScalar_sameNumbers hs h).bind fun scalar scalar' hscalar => ?_
    refine (checkObject_sameNumbers h hparts).bind fun object object' hobject => ?_
    refine (checkArray_sameNumbers h hparts).bind fun array array' harray => ?_
    refine (checkComposition_sameNumbers h hnodes).bind fun composed composed' hcomposed => .ok ?_
    have htype : (checkType s v path).isEmpty = (checkType s w path).isEmpty :=
      checkType_sameNumbers h
    have henum : (checkEnum s v path).isEmpty = (checkEnum s w path).isEmpty :=
      checkEnum_sameNumbers h
    have hown := Follows.append htype henum
    exact Follows.append (Follows.append (Follows.append (Follows.append hown hscalar) hobject)
      harray) hcomposed
  unfold checkSchema
  rw [h.isNull_eq]
  split
  · exact agreeOnNone_same _
  · split
    · exact agreeOnNone_same _
    · exact hkeywords

/-- A check that comes to an end does so anywhere, with an issue or without. -/
lemma checkNode_ok_elsewhere {registry : Registry} {limit : Int} {depth : Nat} {node : Node}
    {is : List Issue} (h : checkNode registry limit depth node v path = .ok is) (q : Path) :
    ∃ js, checkNode registry limit depth node v q = .ok js ∧ js.isEmpty = is.isEmpty := by
  have hfrom : checkNodeFrom registry limit (limit - depth) = checkNode registry limit depth := by
    have hdepth : (limit - (limit - depth)).toNat = depth := by omega
    rw [checkNodeFrom, hdepth]
  have hown : ∀ p, EndAlike (checkNode registry limit depth node v p)
      (onItsOwn registry (limit - (limit - depth)) node v p) := by
    rw [← hfrom]
    exact checkNodeFrom_endAlike node v
  have hhere := hown path
  have hthere := hown q
  rw [h] at hhere
  rcases endAlike_iff.1 hhere with heq | ⟨f, g, hf, -⟩
  · obtain ⟨found, hfound, rfl⟩ := map_eq_ok.1 heq.symm
    rw [onItsOwn, hfound] at hthere
    rcases endAlike_iff.1 hthere with heq' | ⟨f, g, -, hg, -⟩
    · exact ⟨_, heq', by rw [List.isEmpty_map, List.isEmpty_map]⟩
    · cases hg
  · cases hf

/-- A node that comes to an issue or not alike with two values in one place does so wherever they
stand. -/
lemma seesNoKind_of_place {registry : Registry} {limit : Int} {depth : Nat} {node : Node}
    (h : ∀ v w path, v.SameNumbers N w → AgreeOnNone (checkNode registry limit depth node v path)
      (checkNode registry limit depth node w path)) :
    SeesNoKind N (checkNode registry limit depth) node := by
  intro v w p q hvw is js his hjs
  obtain ⟨is', his', hempty⟩ := checkNode_ok_elsewhere his q
  rw [← hempty]
  exact h v w q hvw is' js his' hjs

/-- **Nodes come to an issue or not alike** with values that have the same numbers, at every depth,
if all schemas that they lead to take these numbers alike.

**Proof sketch.** Induction on the depth. A reference hands on to its target. A schema hands parts of
the values on, which have the same numbers too; where a key is one of these numbers, they stand in
different places, which no check sees. -/
theorem checkNode_sameNumbers {registry : Registry} (limit : Int) (depth : Nat) {node : Node}
    (hs : ∀ s, registry.Reaches Keywords.children node s → ∀ n, N n → s.TakesAlike n) :
    SeesNoKind N (checkNode registry limit depth) node := by
  have hplace : ∀ v w path, v.SameNumbers N w →
      AgreeOnNone (checkNode registry limit depth node v path)
        (checkNode registry limit depth node w path) := by
    induction depth, node using registry.node_induction with
    | zero node => exact fun v w path _ is js his => by cases his
    | unknown depth name hget =>
      intro v w path _
      rw [checkNode_unknown hget, checkNode_unknown hget]
      exact agreeOnNone_same _
    | named depth name s hget ih =>
      intro v w path h
      rw [checkNode_named hget, checkNode_named hget]
      exact ih (fun t ht => hs t (.ref hget ht)) v w path h
    | link depth name other hget ih =>
      intro v w path h
      rw [checkNode_link hget, checkNode_link hget]
      exact ih (fun t ht => hs t (.ref hget ht)) v w path h
    | schema depth s ih =>
      exact fun v w path h => checkSchema_sameNumbers (hs s (.here s)) h fun c hc =>
        seesNoKind_of_place (ih c fun t ht => hs t (.child hc ht))
  exact seesNoKind_of_place hplace

end Validation

/-! ## What takes numbers alike -/

namespace Keywords

variable {s : Schema} {n : Int}

/-- **Divisors that are doubles tell nothing apart**: a schema takes a small whole number and its
double alike if the number is in the range of its format and what it asks multiples of is exactly a
double. -/
lemma takesAlike_of_representable (hn : n.natAbs ≤ 2 ^ 53)
    (hformat : s.format = .str "int32" → fitsSigned 32 n = true)
    (hdivisor : ∀ m, s.multipleOf.operand? = some (.int m) →
      Representable (m.natAbs * Binary64.one)) : s.TakesAlike n :=
  ⟨hformat, fun _ hd => Number.isMultiple_ofInt hn fun m hm => hdivisor m (hm ▸ hd)⟩

end Keywords

namespace Validation

variable {s : Schema} {n : Int} {v : Value} {a : Number} {path : Path}

/-- A schema that asks for a format checks it of a number, and no more. -/
lemma checkNode_format (hv : v.number? = some a) (format : Value) (registry : Registry)
    (limit : Int) (depth : Nat) :
    checkNode registry limit (depth + 1) (.schema { format := format }) v path =
      (checkFormat v format).map (formatIssues path) := by
  have hnull : v.isNull = false := by cases v <;> first | rfl | cases hv
  rw [checkNode_schema hnull, checkKeywords_number hv rfl rfl rfl, checkFormatKeyword_eq]
  cases (checkFormat v format).map (formatIssues path) <;> rfl

/-- A number that is too large for 32 bits is reported as a whole number, and not as a double. -/
lemma format_parts (hrange : fitsSigned 32 n = false) (x : Binary64) :
    (∃ reason, checkFormat (.int n) (.str "int32") = .ok (some reason)) ∧
      checkFormat (.float x) (.str "int32") = .ok none := by
  have hknown : checkFormat (.int n) (.str "int32") = .ok (outOfRange "int32" 32 (.int n)) := rfl
  refine ⟨?_, rfl⟩
  rw [hknown, outOfRange, hrange]
  exact ⟨_, rfl⟩

/-- A divisor that is set and of which only one of two numbers is a multiple is set to a whole
number. -/
lemma isTruthy_of_parts {divisor : Value} {d : Number} (hn : n.natAbs ≤ 2 ^ 53)
    (hd : divisor.operand? = some d)
    (hparts : ¬Agree Eq ((Number.int n).isMultiple d) ((Number.float (.ofInt n)).isMultiple d)) :
    divisor.isTruthy = true := by
  cases d with
  | float y => exact absurd (Number.isMultiple_ofInt hn fun m hm => by cases hm) hparts
  | int m =>
    have hne : m ≠ 0 := by
      rintro rfl
      have hzero : (Number.int n).isMultiple (.int 0) = .error .tooLarge := rfl
      refine hparts fun a b ha => ?_
      rw [hzero] at ha
      cases ha
    cases divisor with
    | bool b =>
      cases b with
      | true => rfl
      | false => exact absurd (Number.int.inj (Option.some.inj hd)) hne.symm
    | int k =>
      obtain rfl := Number.int.inj (Option.some.inj hd)
      simp [Value.isTruthy, hne]
    | _ => cases hd

/-- A divisor with which the remainders of a number and of its double come to different ends parts
the two. -/
lemma parts_of_multipleOf (hn : n.natAbs ≤ 2 ^ 53) {d : Number} (hd : s.multipleOf.operand? = some d)
    (hparts : ¬Agree Eq ((Number.int n).isMultiple d) ((Number.float (.ofInt n)).isMultiple d))
    (registry : Registry) (limit : Int) (depth : Nat) :
    ∃ is js, checkNode registry limit (depth + 1) (.schema (Keywords.multiples {} s.multipleOf))
        (.int n) [] = .ok is ∧
      checkNode registry limit (depth + 1) (.schema (Keywords.multiples {} s.multipleOf))
        (.float (.ofInt n)) [] = .ok js ∧ ¬(is = [] ↔ js = []) := by
  have hset := isTruthy_of_parts hn hd hparts
  generalize Binary64.ofInt n = x at hparts ⊢
  have hcheck : ∀ {v a b}, Value.number? v = some a → a.isMultiple d = .ok b →
      checkNode registry limit (depth + 1) (.schema (Keywords.multiples {} s.multipleOf)) v [] =
        .ok (issueIf (!b) (violation
          ("Value " ++ v.text ++ " is not a multiple of " ++ s.multipleOf.text) [])) := by
    intro v a b hv ha
    rw [checkNode_multiples hv, checkMultiple, hset, hd]
    dsimp only
    rw [ha]
    rfl
  unfold Agree at hparts
  push Not at hparts
  obtain ⟨a, b, ha, hb, hne⟩ := hparts
  refine ⟨_, _, hcheck rfl ha, hcheck rfl hb, ?_⟩
  rw [issueIf_eq_nil, issueIf_eq_nil]
  cases a <;> cases b <;> simp_all

/-- A format that a number is out of the range of parts it from its double. -/
lemma parts_of_format (hname : s.format = .str "int32") (hrange : fitsSigned 32 n = false)
    (registry : Registry) (limit : Int) (depth : Nat) :
    ∃ is js, checkNode registry limit (depth + 1) (.schema { format := s.format }) (.int n) [] =
        .ok is ∧
      checkNode registry limit (depth + 1) (.schema { format := s.format }) (.float (.ofInt n)) [] =
        .ok js ∧ ¬(is = [] ↔ js = []) := by
  obtain ⟨⟨reason, hint⟩, hfloat⟩ := format_parts hrange (.ofInt n)
  generalize Binary64.ofInt n = x at hfloat ⊢
  refine ⟨formatIssues [] (some reason), formatIssues [] none, ?_, ?_, ?_⟩
  · rw [checkNode_format rfl, hname, hint]
    rfl
  · rw [checkNode_format rfl, hname, hfloat]
    rfl
  · simp [formatIssues]

/-- **A schema that does not take a number and its double alike parts them**, by the keyword that
tells them apart: one of two checks against that keyword alone finds an issue and the other none. -/
lemma parts_of_not_takesAlike (hn : n.natAbs ≤ 2 ^ 53) (h : ¬s.TakesAlike n) (registry : Registry)
    {limit : Int} (hlimit : 0 < limit) :
    ∃ t : Schema, (t = { format := s.format } ∨ t = Keywords.multiples {} s.multipleOf) ∧
      ∃ is js, validate registry (.schema t) (.int n) limit = .ok is ∧
        validate registry (.schema t) (.float (.ofInt n)) limit = .ok js ∧ ¬(is = [] ↔ js = []) := by
  obtain ⟨depth, hdepth⟩ : ∃ depth, limit.toNat = depth + 1 := ⟨limit.toNat - 1, by omega⟩
  unfold validate
  rw [hdepth]
  by_cases hformat : s.format = .str "int32" → fitsSigned 32 n = true
  · obtain ⟨d, hd, hparts⟩ : ∃ d, s.multipleOf.operand? = some d ∧
        ¬Agree Eq ((Number.int n).isMultiple d) ((Number.float (.ofInt n)).isMultiple d) := by
      by_contra hall
      push Not at hall
      exact h ⟨hformat, hall⟩
    exact ⟨_, .inr rfl, parts_of_multipleOf hn hd hparts registry limit depth⟩
  · push Not at hformat
    obtain ⟨hname, hrange⟩ := hformat
    exact ⟨_, .inl rfl,
      parts_of_format hname (Bool.not_eq_true _ |>.mp hrange) registry limit depth⟩

end Validation

/-! ## Whole values -/

/-- **Validation sees a whole number and its double alike, up to two keywords.** Values that differ
in the kind of some small whole numbers alone have issues alike, within every limit, if neither check
stops and all schemas that the node leads to take these numbers alike. A schema does so if the
numbers are in the range of its format and what it asks multiples of is exactly a double. If it does
not, then its format or what it asks multiples of, on its own, parts the number from its double.

**Proof sketch.** Equality, bounds and types go by the place of a number, which is that of its double.
A divisor that is a double gives both one quotient: the first is that of the numbers, rounded, the
second that of their doubles, which are the same numbers. -/
theorem validate_sameNumbers (registry : Registry) (node : Node) (limit : Int) :
    (∀ N v w, Value.SameNumbers N v w →
        (∀ s, registry.Reaches Keywords.children node s → ∀ n, N n → s.TakesAlike n) →
        Agree (fun is js => is = [] ↔ js = []) (validate registry node v limit)
          (validate registry node w limit)) ∧
      (∀ (s : Schema) (n : Int), n.natAbs ≤ 2 ^ 53 →
        (s.format = .str "int32" → fitsSigned 32 n = true) →
        (∀ m, s.multipleOf.operand? = some (.int m) →
          Representable (m.natAbs * Binary64.one)) → s.TakesAlike n) ∧
      ∀ (s : Schema) (n : Int), n.natAbs ≤ 2 ^ 53 → ¬s.TakesAlike n → 0 < limit →
        ∃ t : Schema, (t = { format := s.format } ∨ t = Keywords.multiples {} s.multipleOf) ∧
          ∃ is js, validate registry (.schema t) (.int n) limit = .ok is ∧
            validate registry (.schema t) (.float (.ofInt n)) limit = .ok js ∧
            ¬(is = [] ↔ js = []) := by
  refine ⟨fun N v w h hs => ?_, fun s n hn => Keywords.takesAlike_of_representable hn,
    fun s n hn hs hlimit => Validation.parts_of_not_takesAlike hn hs registry hlimit⟩
  refine (Validation.checkNode_sameNumbers limit limit.toNat hs v w [] [] h).mono ?_
  intro is js hempty
  rw [← List.isEmpty_iff, ← List.isEmpty_iff, hempty]

/-- Different multiples of three that are not negative. -/
def distinctTriples : Schema where
  type := some .array
  items := some (.schema { type := some .integer, minimum := .int 0, multipleOf := .int 3 })
  uniqueItems := .bool true

/-- Triples with a whole double among them are different multiples of three as with the whole number:
as nothing is found in the list of whole numbers, nothing is found in the other. -/
theorem triples_sameNumbers :
    (Value.list [.int 3, .int 6]).SameNumbers (· = 3) (.list [.float (.ofInt 3), .int 6]) ∧
      validate ⟨[]⟩ (.schema distinctTriples) (.list [.int 3, .int 6]) 64 = .ok [] ∧
      validate ⟨[]⟩ (.schema distinctTriples) (.list [.float (.ofInt 3), .int 6]) 64 = .ok [] := by
  obtain ⟨hsame, htakes, -⟩ := validate_sameNumbers ⟨[]⟩ (.schema distinctTriples) 64
  have hvalues : (Value.list [.int 3, .int 6]).SameNumbers (· = 3)
      (.list [.float (.ofInt 3), .int 6]) := by
    refine .list rfl fun p hp => ?_
    rcases List.mem_cons.1 hp with rfl | hp
    · exact .number (by decide) rfl
    · obtain rfl := List.mem_singleton.1 hp
      exact .same _
  have hreached : ∀ s, (⟨[]⟩ : Registry).Reaches Keywords.children (.schema distinctTriples) s →
      ∀ n, n = 3 → s.TakesAlike n := by
    intro s h n hn
    subst hn
    cases h with
    | here =>
      refine htakes _ 3 (by decide) (by simp [distinctTriples]) fun m hm => ?_
      cases hm
    | child hc h =>
      obtain rfl := List.mem_singleton.1 hc
      cases h with
      | here =>
        refine htakes _ 3 (by decide) (by simp) ?_
        rintro m hm
        obtain rfl := Number.int.inj (Option.some.inj hm)
        exact Binary64.representable_mul_one (by decide)
      | child hc => cases hc
  have hfirst : validate ⟨[]⟩ (.schema distinctTriples) (.list [.int 3, .int 6]) 64 = .ok [] :=
    eq_ok_nil_of_isEmpty (by decide +kernel)
  obtain ⟨js, hjs, -⟩ : ∃ js, validate ⟨[]⟩ (.schema distinctTriples)
      (.list [.float (.ofInt 3), .int 6]) 64 = .ok js ∧ js.map Issue.kind = [] :=
    exists_ok_of_kinds (by decide +kernel)
  have hnone := (hsame _ _ _ hvalues hreached [] js hfirst hjs).1 rfl
  exact ⟨hvalues, hfirst, hnone ▸ hjs⟩

/-- A number beyond 32 bits is out of range as a whole number, and not as a double. By a divisor that
is no double a whole number can be divided and its double not, or the other way around. -/
theorem kinds_told_apart :
    (∃ is, validate ⟨[]⟩ (.schema { type := some .integer, format := .str "int32" })
        (.int 2147483648) 64 = .ok is ∧ is.map Issue.kind = [.invalidFormat]) ∧
    validate ⟨[]⟩ (.schema { type := some .integer, format := .str "int32" })
      (.float (.ofInt 2147483648)) 64 = .ok [] ∧
    validate ⟨[]⟩ (.schema (Keywords.multiples {} (.int 19999999999999997))) (.int 20000000) 64 =
      .ok [] ∧
    (∃ js, validate ⟨[]⟩ (.schema (Keywords.multiples {} (.int 19999999999999997)))
        (.float (.ofInt 20000000)) 64 = .ok js ∧ js.map Issue.kind = [.constraintViolation]) ∧
    (∃ is, validate ⟨[]⟩ (.schema (Keywords.multiples {} (.int 29999999999999995)))
        (.int 30000000) 64 = .ok is ∧ is.map Issue.kind = [.constraintViolation]) ∧
    validate ⟨[]⟩ (.schema (Keywords.multiples {} (.int 29999999999999995)))
      (.float (.ofInt 30000000)) 64 = .ok [] := by
  exact ⟨exists_ok_of_kinds (by decide +kernel), eq_ok_nil_of_isEmpty (by decide +kernel),
    eq_ok_nil_of_isEmpty (by decide +kernel), exists_ok_of_kinds (by decide +kernel),
    exists_ok_of_kinds (by decide +kernel), eq_ok_nil_of_isEmpty (by decide +kernel)⟩

end DataSchema
