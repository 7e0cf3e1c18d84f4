import DataSchema.Proofs.Agreement
import DataSchema.Proofs.TextKeys

set_option autoImplicit false

/-!
# Alternatives in another order

Two nodes are the same but for the order of alternatives if they become the same once the lists of
alternatives in them are put in order, at any depth. Validation finds the same issues with both. Of
alternatives of which one is enough it tries only those up to the first that conforms, and of
those that exclude each other it tries all, but in neither case does it matter in which order they
come, unless one of the runs stops.

## Main definitions

* `DataSchema.Node.Rearranged` — nodes that are the same but for the order of alternatives.
* `DataSchema.Registry.Rearranged` — registries whose nodes are.

## Main results

* `DataSchema.Validation.checkSchema_rearranged` — the same issues of a schema, given those of its
  child nodes.
* `DataSchema.validate_rearranged` — the same issues of a whole value.
-/

namespace DataSchema

/-! ## Nodes but for the order of alternatives -/

/-- Things of one name are related. -/
inductive SameName {ν : Type} (R : ν → ν → Prop) : String × ν → String × ν → Prop
  /-- The things of a name are related. -/
  | named {n m : ν} (name : String) : R n m → SameName R (name, n) (name, m)

/-- Rules for undeclared properties are the same but for a relation of the nodes they hold. -/
inductive Additional.Rel {ν : Type} (R : ν → ν → Prop) : Additional ν → Additional ν → Prop
  | unspecified : Rel R .unspecified .unspecified
  | flag (allowed : Bool) : Rel R (.flag allowed) (.flag allowed)
  | schema {n m : ν} : R n m → Rel R (.schema n) (.schema m)

/-- The keywords of two schemas are the same but for a relation of the nodes they hold, and for the
order of alternatives. -/
inductive Keywords.Rearranged {ν : Type} (R : ν → ν → Prop) : Keywords ν → Keywords ν → Prop
  | intro {properties : Option (List (String × ν))} {additional : Additional ν}
    {items notSchema : Option ν} {oneOf anyOf allOf : Option (List ν)} {s : Keywords ν} :
    Option.Rel (List.Forall₂ (SameName R)) s.properties properties →
    Additional.Rel R s.additional additional →
    Option.Rel R s.items items →
    Option.Rel (Permuted R) s.oneOf oneOf →
    Option.Rel (Permuted R) s.anyOf anyOf →
    Option.Rel (List.Forall₂ R) s.allOf allOf →
    Option.Rel R s.notSchema notSchema →
    Rearranged R s
      { s with
        properties := properties
        additional := additional
        items := items
        oneOf := oneOf
        anyOf := anyOf
        allOf := allOf
        notSchema := notSchema }

/-- Two nodes are the same but for the order of alternatives, at any depth. -/
inductive Node.Rearranged : Node → Node → Prop
  | ref (name : String) : Rearranged (.ref name) (.ref name)
  | schema {s t : Schema} : Keywords.Rearranged Rearranged s t → Rearranged (.schema s) (.schema t)

/-- Two registries have nodes of the same names, which are the same but for the order of
alternatives. -/
def Registry.Rearranged (r₁ r₂ : Registry) : Prop :=
  ∀ name, Option.Rel Node.Rearranged (r₁.get? name) (r₂.get? name)

/-- Registries are the same but for the order of alternatives if their entries are, one by one. -/
lemma Registry.Rearranged.of_entries {r₁ r₂ : Registry}
    (h : List.Forall₂ (SameName Node.Rearranged) r₁.entries r₂.entries) : r₁.Rearranged r₂ := by
  obtain ⟨es⟩ := r₁
  obtain ⟨fs⟩ := r₂
  intro name
  unfold Registry.get?
  dsimp only at h ⊢
  induction h with
  | nil => exact .none
  | cons hfirst _ ih =>
    obtain ⟨name', hnm⟩ := hfirst
    rw [List.lookup_cons, List.lookup_cons]
    cases name == name' with
    | true => exact .some hnm
    | false => exact ih

namespace Keywords.Rearranged

variable {ν : Type} {R : ν → ν → Prop} {s t : Keywords ν}

/-- Related lists of a keyword are related when the keyword is absent too. -/
lemma getD {α : Type} {P : List α → List α → Prop} {a b : Option (List α)} (h : Option.Rel P a b)
    (hnil : P [] []) : P (a.getD []) (b.getD []) := by
  cases h with
  | some h => exact h
  | none => exact hnil

/-- The same properties are declared, in the same order. -/
lemma declared (h : s.Rearranged R t) : List.Forall₂ (SameName R) s.declared t.declared := by
  obtain ⟨hproperties, -, -, -, -, -, -⟩ := h
  exact getD hproperties .nil

/-- Alternatives that exclude each other are the same, in some order. -/
lemma oneOfList (h : s.Rearranged R t) : Permuted R s.oneOfList t.oneOfList := by
  obtain ⟨-, -, -, hone, -, -, -⟩ := h
  exact getD hone (.of_forall₂ .nil)

/-- Alternatives are the same, in some order. -/
lemma anyOfList (h : s.Rearranged R t) : Permuted R s.anyOfList t.anyOfList := by
  obtain ⟨-, -, -, -, hany, -, -⟩ := h
  exact getD hany (.of_forall₂ .nil)

/-- The members are the same, in the same order. -/
lemma allOfList (h : s.Rearranged R t) : List.Forall₂ R s.allOfList t.allOfList := by
  obtain ⟨-, -, -, -, -, hall, -⟩ := h
  exact getD hall .nil

/-- The rule for undeclared properties is the same. -/
lemma additional (h : s.Rearranged R t) : Additional.Rel R s.additional t.additional := by
  obtain ⟨-, hadditional, -, -, -, -, -⟩ := h
  exact hadditional

/-- The node for items is the same. -/
lemma items (h : s.Rearranged R t) : Option.Rel R s.items t.items := by
  obtain ⟨-, -, hitems, -, -, -, -⟩ := h
  exact hitems

/-- The schema that must not match is the same. -/
lemma notSchema (h : s.Rearranged R t) : Option.Rel R s.notSchema t.notSchema := by
  obtain ⟨-, -, -, -, -, -, hnot⟩ := h
  exact hnot

/-- The same keys are declared. -/
lemma declares (h : s.Rearranged R t) (k : Value) : s.declares k = t.declares k := by
  have hdeclared := h.declared
  unfold Keywords.declares
  generalize s.declared = ps at hdeclared ⊢
  generalize t.declared = qs at hdeclared ⊢
  induction hdeclared with
  | nil => rfl
  | cons hfirst _ ih =>
    obtain ⟨name, -⟩ := hfirst
    rw [List.any_cons, List.any_cons, ih]

end Keywords.Rearranged

/-! ## Checks -/

namespace Validation

variable {child₁ child₂ : NodeChecker} {s t : Schema} {v : Value} {data : Entries}
  {items : List Value} {path : Path}

/-- Two checkers find the same with nodes that are the same but for the order of alternatives. -/
def SeesNoOrder (child₁ child₂ : NodeChecker) : Prop :=
  ∀ n m, n.Rearranged m → ∀ v path, Agree Eq (child₁ n v path) (child₂ m v path)

/-- The same issues of each of several things are the same issues in all. -/
lemma gather_agree {α β : Type} {P : α → β → Prop} {f : α → Check} {g : β → Check} {xs : List α}
    {zs : List β} (h : List.Forall₂ P xs zs) (hfg : ∀ x z, P x z → Agree Eq (f x) (g z)) :
    Agree Eq (gather xs f) (gather zs g) := by
  refine (Agree.mapM h hfg).map fun parts parts' hparts => ?_
  rw [List.forall₂_eq_eq_eq] at hparts
  rw [hparts]

/-- The same issues of declared properties. -/
lemma checkProperties_rearranged (h : s.Rearranged Node.Rearranged t)
    (hchild : SeesNoOrder child₁ child₂) :
    Agree Eq (checkProperties child₁ s data path) (checkProperties child₂ t data path) := by
  refine gather_agree h.declared fun p q hpq => ?_
  obtain ⟨name, hnm⟩ := hpq
  dsimp only
  cases data.get? (.str name) with
  | none => exact .same _
  | some v => exact hchild _ _ hnm v _

/-- The same issues of undeclared properties. -/
lemma checkAdditional_rearranged (h : s.Rearranged Node.Rearranged t)
    (hchild : SeesNoOrder child₁ child₂) :
    Agree Eq (checkAdditional child₁ s data path) (checkAdditional child₂ t data path) := by
  have hundeclared : undeclared s data = undeclared t data := by
    unfold undeclared
    simp only [h.declares]
  unfold checkAdditional
  rw [hundeclared]
  match s.additional, t.additional, h.additional with
  | _, _, .unspecified => exact .same _
  | _, _, .flag allowed => cases allowed <;> exact .same _
  | _, _, .schema hnm =>
    refine gather_agree (P := Eq) (List.forall₂_refl _) ?_
    rintro e _ rfl
    exact hchild _ _ hnm e.2 _

/-- The same issues of an object. -/
lemma checkObject_rearranged (h : s.Rearranged Node.Rearranged t)
    (hchild : SeesNoOrder child₁ child₂) :
    Agree Eq (checkObject child₁ s v path) (checkObject child₂ t v path) := by
  have hrequired : t.required = s.required := by cases h; rfl
  have hcount : ∀ count, checkPropertyCount t count path = checkPropertyCount s count path := by
    cases h
    exact fun _ => rfl
  unfold checkObject
  rw [hrequired]
  cases v.objectView? s.required with
  | none => exact .same _
  | some data =>
    refine (checkProperties_rearranged h hchild).bind ?_
    rintro declared _ rfl
    refine (Agree.same _).bind ?_
    rintro required _ rfl
    refine (checkAdditional_rearranged h hchild).bind ?_
    rintro additional _ rfl
    rw [hcount]
    exact .same _

/-- The same issues of items. -/
lemma checkItems_rearranged (h : s.Rearranged Node.Rearranged t)
    (hchild : SeesNoOrder child₁ child₂) :
    Agree Eq (checkItems child₁ s items path) (checkItems child₂ t items path) := by
  unfold checkItems
  match s.items, t.items, h.items with
  | _, _, .none => exact .same _
  | _, _, .some hnm =>
    refine gather_agree (P := Eq) (List.forall₂_refl _) ?_
    rintro item _ rfl
    exact hchild _ _ hnm item.1 _

/-- The same issues of an array. -/
lemma checkArray_rearranged (h : s.Rearranged Node.Rearranged t)
    (hchild : SeesNoOrder child₁ child₂) :
    Agree Eq (checkArray child₁ s v path) (checkArray child₂ t v path) := by
  have hcount : ∀ count, checkItemCount t count path = checkItemCount s count path := by
    cases h
    exact fun _ => rfl
  have hunique : ∀ items, checkUnique t items path = checkUnique s items path := by
    cases h
    exact fun _ => rfl
  unfold checkArray
  cases v.items? with
  | none => exact .same _
  | some items =>
    refine (checkItems_rearranged h hchild).bind ?_
    rintro each _ rfl
    rw [hcount, hunique]
    exact .same _

/-- The same issues of composition. This is where the order of alternatives comes in. -/
lemma checkComposition_rearranged (h : s.Rearranged Node.Rearranged t)
    (hchild : SeesNoOrder child₁ child₂) :
    Agree Eq (checkComposition child₁ s v path) (checkComposition child₂ t v path) := by
  have hnone : ∀ n m, n.Rearranged m → AgreeOnNone (child₁ n v path) (child₂ m v path) :=
    fun n m hnm => (hchild n m hnm v path).mono fun _ _ heq => by rw [heq]
  refine (gather_agree h.allOfList fun n m hnm => hchild n m hnm v path).bind ?_
  rintro all _ rfl
  refine (checkAnyOf_agree h.anyOfList hnone).bind ?_
  rintro any _ rfl
  refine (checkOneOf_agree h.oneOfList hnone).bind ?_
  rintro one _ rfl
  refine (checkNot_agree h.notSchema hnone).bind ?_
  rintro not _ rfl
  exact .same _

/-- **The same issues of a schema**, given those of its child nodes. -/
lemma checkSchema_rearranged (h : s.Rearranged Node.Rearranged t)
    (hchild : SeesNoOrder child₁ child₂) :
    Agree Eq (checkSchema child₁ s v path) (checkSchema child₂ t v path) := by
  have hkeywords : Agree Eq (checkKeywords child₁ s v path) (checkKeywords child₂ t v path) := by
    have hscalar : checkScalar t v path = checkScalar s v path := by cases h; rfl
    have htype : checkType t v path = checkType s v path := by cases h; rfl
    have henum : checkEnum t v path = checkEnum s v path := by cases h; rfl
    unfold checkKeywords
    rw [hscalar, htype, henum]
    refine (Agree.same _).bind ?_
    rintro scalar _ rfl
    refine (checkObject_rearranged h hchild).bind ?_
    rintro object _ rfl
    refine (checkArray_rearranged h hchild).bind ?_
    rintro array _ rfl
    refine (checkComposition_rearranged h hchild).bind ?_
    rintro composition _ rfl
    exact .same _
  have hnullable : t.nullable = s.nullable := by cases h; rfl
  have htype : t.type = s.type := by cases h; rfl
  have hwrong : wrongType t "null" path = wrongType s "null" path := by cases h; rfl
  unfold checkSchema
  rw [hnullable, htype, hwrong]
  split
  · exact .same _
  · split
    · exact .same _
    · exact hkeywords

/-- The same issues of a node at every depth, if no run stops.

**Proof sketch.** Induction on the depth. A reference hands on to its target in the one registry
and in the other, and a schema hands its child nodes on. -/
lemma checkNode_rearranged {r₁ r₂ : Registry} (hr : r₁.Rearranged r₂) (limit : Int) (depth : Nat) :
    SeesNoOrder (checkNode r₁ limit depth) (checkNode r₂ limit depth) := by
  induction depth with
  | zero =>
    intro n m _ v path is js h
    cases h
  | succ depth ih =>
    intro n m hnm v path
    unfold checkNode
    cases hnm with
    | schema h => exact checkSchema_rearranged h ih
    | ref name =>
      unfold checkResolved
      dsimp only
      match r₁.get? name, r₂.get? name, hr name with
      | _, _, .none => exact .same _
      | _, _, .some hnode =>
        cases hnode with
        | schema h => exact checkSchema_rearranged h ih
        | ref link => exact ih _ _ (.ref link) v path

end Validation

/-! ## Whole values -/

/-- **The order of alternatives is irrelevant to validation**: with two registries and two nodes
that are the same but for the order of alternatives, at any depth, a value has the same issues
within every limit, if neither check stops. -/
theorem validate_rearranged {r₁ r₂ : Registry} {n₁ n₂ : Node} {v : Value} {limit : Int}
    {is₁ is₂ : List Issue} (hr : r₁.Rearranged r₂) (hn : n₁.Rearranged n₂)
    (h₁ : validate r₁ n₁ v limit = .ok is₁) (h₂ : validate r₂ n₂ v limit = .ok is₂) : is₁ = is₂ :=
  Validation.checkNode_rearranged hr limit limit.toNat n₁ n₂ hn v [] is₁ is₂ h₁ h₂

/-- A mark is of one of several kinds, and it is none of what is banned. -/
def mark (kinds banned : List Node) : Schema where
  oneOf := some kinds
  notSchema := some (.schema { anyOf := some banned })

/-- A registry of marks and of what they may be. -/
def markRegistry (kinds banned : List Node) : Registry :=
  ⟨[("Whole", .schema { type := some .integer }), ("Number", .schema { type := some .number }),
    ("Word", .schema { type := some .string }), ("Mark", .schema (mark kinds banned))]⟩

/-- Marks with the kinds of numbers first. -/
def numbersFirst : Registry :=
  markRegistry [.ref "Whole", .ref "Number", .ref "Word"] [.ref "Word", .ref "Lost"]

/-- Marks with words first, and with what does not exist first among what is banned. -/
def wordsFirst : Registry :=
  markRegistry [.ref "Word", .ref "Whole", .ref "Number"] [.ref "Lost", .ref "Word"]

/-- The two registries of marks are the same but for the order of alternatives. -/
lemma numbersFirst_rearranged : numbersFirst.Rearranged wordsFirst := by
  have htype : ∀ t : TypeName,
      Node.Rearranged (.schema { type := some t }) (.schema { type := some t }) := fun _ =>
    .schema (.intro .none .unspecified .none .none .none .none .none)
  have hkinds : Permuted Node.Rearranged [.ref "Whole", .ref "Number", .ref "Word"]
      [.ref "Word", .ref "Whole", .ref "Number"] :=
    .of_perm (List.perm_append_singleton _ [_, _])
      (.cons (.ref _) (.cons (.ref _) (.cons (.ref _) .nil)))
  have hbanned : Permuted Node.Rearranged [.ref "Word", .ref "Lost"] [.ref "Lost", .ref "Word"] :=
    .of_perm (.swap _ _ _) (.cons (.ref _) (.cons (.ref _) .nil))
  refine .of_entries (.cons (.named _ (htype _)) (.cons (.named _ (htype _))
    (.cons (.named _ (htype _)) (.cons (.named _ (.schema ?_)) .nil))))
  exact .intro .none .unspecified .none (.some hkinds) .none .none
    (.some (.schema (.intro .none .unspecified .none .none (.some hbanned) .none .none)))

/-- A row of marks. -/
def markRow : Node := .schema { items := some (.ref "Mark") }

/-- A mark of two kinds and one that is banned are found whichever kind is tried first. -/
theorem marks_same_issues :
    numbersFirst.Rearranged wordsFirst ∧ markRow.Rearranged markRow ∧ ∃ is,
      validate numbersFirst markRow (.list [.int 1, .str "a"]) 8 = .ok is ∧
      validate wordsFirst markRow (.list [.int 1, .str "a"]) 8 = .ok is ∧
      is.map Issue.kind = [.ambiguousMatch, .unexpectedMatch] := by
  have hrow : markRow.Rearranged markRow :=
    .schema (.intro .none .unspecified (.some (.ref _)) .none .none .none .none)
  obtain ⟨is, h₁, hkinds⟩ : ∃ is,
      validate numbersFirst markRow (.list [.int 1, .str "a"]) 8 = .ok is ∧
      is.map Issue.kind = [.ambiguousMatch, .unexpectedMatch] :=
    exists_ok_of_kinds (by decide +kernel)
  obtain ⟨js, h₂, -⟩ : ∃ js,
      validate wordsFirst markRow (.list [.int 1, .str "a"]) 8 = .ok js ∧
      js.map Issue.kind = [.ambiguousMatch, .unexpectedMatch] :=
    exists_ok_of_kinds (by decide +kernel)
  obtain rfl := validate_rearranged numbersFirst_rearranged hrow h₁ h₂
  exact ⟨numbersFirst_rearranged, hrow, is, h₁, h₂, hkinds⟩

end DataSchema
