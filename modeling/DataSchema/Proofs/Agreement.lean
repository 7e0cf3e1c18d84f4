import Mathlib.Data.List.Perm.Basic
import DataSchema.Proofs.Outcome

set_option autoImplicit false

/-!
# Two runs side by side

What two checks have to do with each other when both come to a result. The relation is asked of
results only: a run that stops says nothing. Runs over several things agree if they agree thing by
thing, also when one of them takes the things in another order, and the keywords that compose
schemas see of their nodes only which of them the value conforms to.

## Main definitions

* `DataSchema.Permuted` — lists that are related one by one, once the first is put in order.
* `DataSchema.Agree` — results are related whenever there are two.

## Main results

* `DataSchema.Agree.mapM`, `DataSchema.Agree.mapM_permuted` — computations for each of several
  things.
* `DataSchema.Validation.checkAnyOf_agree`, `DataSchema.Validation.checkOneOf_agree`,
  `DataSchema.Validation.checkNot_agree` — composition does not depend on the order of
  alternatives.
-/

namespace DataSchema

/-! ## Lists in another order -/

/-- The things of two lists are related one by one, once the first list is put in another order. -/
inductive Permuted {α β : Type} (R : α → β → Prop) : List α → List β → Prop
  /-- One list is put in another order, and the things are related one by one. -/
  | of_perm {ys xs : List α} {zs : List β} : xs.Perm ys → List.Forall₂ R ys zs → Permuted R xs zs

namespace Permuted

variable {α β γ : Type} {R : α → β → Prop} {xs : List α} {zs : List β}

/-- Lists that are related one by one are so in their order. -/
lemma of_forall₂ (h : List.Forall₂ R xs zs) : Permuted R xs zs := .of_perm (.refl xs) h

/-- The second list may be the one that is put in another order. -/
lemma of_forall₂_perm {ys : List β} (h : List.Forall₂ R xs ys) (hperm : ys.Perm zs) :
    Permuted R xs zs := by
  have hcomp : Relation.Comp List.Perm (List.Forall₂ R) xs zs := by
    rw [← List.forall₂_comp_perm_eq_perm_comp_forall₂]
    exact ⟨ys, h, hperm⟩
  obtain ⟨ws, hws, hrel⟩ := hcomp
  exact .of_perm hws hrel

/-- Lists that are related one by one are equally long. -/
lemma length_eq (h : Permuted R xs zs) : xs.length = zs.length := by
  obtain ⟨hperm, hrel⟩ := h
  rw [hperm.length_eq, hrel.length_eq]

/-- Lists that are related one by one are both empty or neither. -/
lemma isEmpty_eq (h : Permuted R xs zs) : xs.isEmpty = zs.isEmpty := by
  rw [Bool.eq_iff_iff, List.isEmpty_iff_length_eq_zero, List.isEmpty_iff_length_eq_zero,
    h.length_eq]

/-- Every thing of the first list is related to one of the second. -/
lemma exists_right (h : Permuted R xs zs) {x : α} (hx : x ∈ xs) : ∃ z ∈ zs, R x z := by
  obtain ⟨hperm, hrel⟩ := h
  have hx' := hperm.mem_iff.1 hx
  clear hperm hx
  induction hrel with
  | nil => cases hx'
  | cons hfirst _ ih =>
    rcases List.mem_cons.1 hx' with rfl | hx'
    · exact ⟨_, List.mem_cons_self, hfirst⟩
    · obtain ⟨z, hz, hxz⟩ := ih hx'
      exact ⟨z, List.mem_cons_of_mem _ hz, hxz⟩

/-- To swap the lists swaps the relation. -/
lemma symm (h : Permuted R xs zs) : Permuted (fun z x => R x z) zs xs := by
  obtain ⟨hperm, hrel⟩ := h
  exact of_forall₂_perm hrel.flip hperm.symm

/-- Every thing of the second list is related to one of the first. -/
lemma exists_left (h : Permuted R xs zs) {z : β} (hz : z ∈ zs) : ∃ x ∈ xs, R x z :=
  h.symm.exists_right hz

/-- What is alike of related things is alike of the lists, up to the order. -/
lemma map_perm {f : α → γ} {g : β → γ} (h : Permuted R xs zs) (hfg : ∀ x z, R x z → f x = g z) :
    (xs.map f).Perm (zs.map g) := by
  obtain ⟨hperm, hrel⟩ := h
  rw [← map_eq_map_of_forall₂ hrel hfg]
  exact hperm.map f

/-- Tests that are alike of related things leave related things. -/
lemma filter {p : α → Bool} {q : β → Bool} (h : Permuted R xs zs)
    (hpq : ∀ x z, R x z → p x = q z) : Permuted R (xs.filter p) (zs.filter q) := by
  obtain ⟨hperm, hrel⟩ := h
  refine .of_perm (hperm.filter p) (List.rel_filter (fun x z hxz => ?_) hrel)
  exact iff_of_eq (congrArg (· = true) (hpq x z hxz))

/-- Lists in a row are related if their parts are. -/
lemma append {xs' : List α} {zs' : List β} (h : Permuted R xs zs) (h' : Permuted R xs' zs') :
    Permuted R (xs ++ xs') (zs ++ zs') := by
  obtain ⟨hperm, hrel⟩ := h
  obtain ⟨hperm', hrel'⟩ := h'
  exact .of_perm (hperm.append hperm') (List.rel_append hrel hrel')

end Permuted

/-- Items that are related one by one are so with their places. -/
lemma forall₂_zipIdx {α β : Type} {R : α → β → Prop} {xs : List α} {ys : List β}
    (h : List.Forall₂ R xs ys) (n : Nat) :
    List.Forall₂ (fun x y => R x.1 y.1 ∧ x.2 = y.2) (xs.zipIdx n) (ys.zipIdx n) := by
  induction h generalizing n with
  | nil => exact .nil
  | cons hfirst _ ih => exact .cons ⟨hfirst, rfl⟩ (ih (n + 1))

/-! ## Related results -/

/-- The results of two computations are related, if both come to one. -/
def Agree {ε δ α β : Type} (R : α → β → Prop) (x : Except ε α) (y : Except δ β) : Prop :=
  ∀ a b, x = .ok a → y = .ok b → R a b

namespace Agree

variable {ε δ α β α' β' : Type} {R : α → β → Prop} {S : α' → β' → Prop}
  {x : Except ε α} {y : Except δ β}

/-- Related results agree. -/
lemma ok {a : α} {b : β} (h : R a b) : Agree R (.ok a : Except ε α) (.ok b : Except δ β) := by
  intro a' b' ha hb
  rwa [← Except.ok.inj ha, ← Except.ok.inj hb]

/-- A computation agrees with itself. -/
lemma same (x : Except ε α) : Agree Eq x x := by
  intro a b ha hb
  exact Except.ok.inj (ha.symm.trans hb)

/-- A weaker relation holds of results that a stronger one holds of. -/
lemma mono {R' : α → β → Prop} (h : Agree R x y) (hR : ∀ a b, R a b → R' a b) : Agree R' x y :=
  fun a b ha hb => hR a b (h a b ha hb)

/-- Computations in a row agree if the first ones do, and the second ones on related results. -/
lemma bind {f : α → Except ε α'} {g : β → Except δ β'} (h : Agree R x y)
    (hfg : ∀ a b, R a b → Agree S (f a) (g b)) : Agree S (x >>= f) (y >>= g) := by
  intro a' b' ha hb
  obtain ⟨a, hx, ha⟩ := bind_eq_ok.1 ha
  obtain ⟨b, hy, hb⟩ := bind_eq_ok.1 hb
  exact hfg a b (h a b hx hy) a' b' ha hb

/-- Changed results agree if the changes take related results to related ones. -/
lemma map {f : α → α'} {g : β → β'} (h : Agree R x y) (hfg : ∀ a b, R a b → S (f a) (g b)) :
    Agree S (x.map f) (y.map g) := by
  intro a' b' ha hb
  obtain ⟨a, hx, rfl⟩ := map_eq_ok.1 ha
  obtain ⟨b, hy, rfl⟩ := map_eq_ok.1 hb
  exact hfg a b (h a b hx hy)

section each

variable {P : α → β → Prop} {f : α → Except ε α'} {g : β → Except δ β'} {xs : List α} {zs : List β}

/-- Computations for each of several things agree if they do thing by thing. -/
lemma mapM (h : List.Forall₂ P xs zs) (hfg : ∀ x z, P x z → Agree S (f x) (g z)) :
    Agree (List.Forall₂ S) (xs.mapM f) (zs.mapM g) := by
  intro as bs has hbs
  rw [mapM_eq_ok] at has hbs
  induction h generalizing as bs with
  | nil =>
    cases has
    cases hbs
    exact .nil
  | cons hfirst _ ih =>
    obtain ⟨a, as', ha, has', rfl⟩ := List.forall₂_cons_left_iff.1 has
    obtain ⟨b, bs', hb, hbs', rfl⟩ := List.forall₂_cons_left_iff.1 hbs
    exact .cons (hfg _ _ hfirst a b ha hb) (ih as' bs' has' hbs')

/-- Computations for each of several things agree, up to the order of the things. -/
lemma mapM_permuted (h : Permuted P xs zs) (hfg : ∀ x z, P x z → Agree S (f x) (g z)) :
    Agree (Permuted S) (xs.mapM f) (zs.mapM g) := by
  obtain ⟨hperm, hrel⟩ := h
  intro as bs has hbs
  obtain ⟨as', has', hperm'⟩ := List.perm_comp_forall₂ hperm.symm (mapM_eq_ok.1 has)
  exact .of_perm hperm'.symm (mapM hrel hfg as' bs (mapM_eq_ok.2 has') hbs)

end each

end Agree

/-! ## Composition -/

namespace Validation

variable {child₁ child₂ : NodeChecker} {R : Node → Node → Prop} {v w : Value} {path : Path}
  {ns ms : List Node} {n m : Node} {s t : Schema}

/-- Two checks come to no issue alike. -/
abbrev AgreeOnNone : Check → Check → Prop := Agree fun is js => is.isEmpty = js.isEmpty

/-- Two values conform alike if the checks come to no issue alike. -/
lemma conforms_agree (h : AgreeOnNone (child₁ n v path) (child₂ m w path)) :
    Agree Eq (conforms child₁ n v path) (conforms child₂ m w path) :=
  h.map fun _ _ => id

/-- A value conforms to any of several nodes if it conforms to one of them. -/
lemma exists_of_conformsToAny {child : NodeChecker}
    (h : conformsToAny child v path ns = .ok true) :
    ∃ n ∈ ns, conforms child n v path = .ok true := by
  induction ns with
  | nil => cases h
  | cons n ns ih =>
    obtain ⟨first, hfirst, h⟩ := bind_eq_ok.1 h
    cases first with
    | true => exact ⟨n, List.mem_cons_self, hfirst⟩
    | false =>
      obtain ⟨n', hn', h'⟩ := ih h
      exact ⟨n', List.mem_cons_of_mem n hn', h'⟩

/-- A value conforms to none of several nodes if it does not conform to each of them. -/
lemma forall_of_conformsToAny {child : NodeChecker}
    (h : conformsToAny child v path ns = .ok false) :
    ∀ n ∈ ns, conforms child n v path = .ok false := by
  induction ns with
  | nil => simp
  | cons n ns ih =>
    obtain ⟨first, hfirst, h⟩ := bind_eq_ok.1 h
    cases first with
    | true => cases h
    | false => exact List.forall_mem_cons.2 ⟨hfirst, ih h⟩

/-- **Looking for an alternative does not depend on their order.** One run may stop at an
alternative that the other does not come to; if neither stops, an alternative that one of them
finds is not passed over by the other. -/
lemma conformsToAny_agree (hnodes : Permuted R ns ms)
    (hchild : ∀ n m, R n m → AgreeOnNone (child₁ n v path) (child₂ m w path)) :
    Agree Eq (conformsToAny child₁ v path ns) (conformsToAny child₂ w path ms) := by
  intro b c hb hc
  cases b <;> cases c
  · rfl
  · obtain ⟨m, hm, hyes⟩ := exists_of_conformsToAny hc
    obtain ⟨n, hn, hnm⟩ := hnodes.exists_left hm
    exact conforms_agree (hchild n m hnm) _ _ (forall_of_conformsToAny hb n hn) hyes
  · obtain ⟨n, hn, hyes⟩ := exists_of_conformsToAny hb
    obtain ⟨m, hm, hnm⟩ := hnodes.exists_right hn
    exact conforms_agree (hchild n m hnm) _ _ hyes (forall_of_conformsToAny hc m hm)
  · rfl

/-- The number of nodes that a value conforms to is that of the checks that say so. -/
lemma conformingCount_eq_map (child : NodeChecker) (v : Value) (path : Path) (ns : List Node) :
    conformingCount child v path ns =
      (ns.mapM fun n => conforms child n v path).map (List.count true) := by
  induction ns with
  | nil => rfl
  | cons n ns ih =>
    rw [conformingCount, ih, List.mapM_cons]
    cases conforms child n v path with
    | error f => rfl
    | ok one =>
      cases ns.mapM fun n => conforms child n v path with
      | error f => rfl
      | ok others =>
        cases one <;> simp [Except.map, bind, Except.bind, pure, Except.pure, Nat.add_comm]

/-- If the number of nodes that a value conforms to is not zero, it conforms to one of them. -/
lemma exists_of_conformingCount {child : NodeChecker} {count : Nat}
    (h : conformingCount child v path ns = .ok count) (hpos : 0 < count) :
    ∃ n ∈ ns, conforms child n v path = .ok true := by
  rw [conformingCount_eq_map] at h
  obtain ⟨bs, hbs, rfl⟩ := map_eq_ok.1 h
  exact (Permuted.of_forall₂ (mapM_eq_ok.1 hbs)).exists_left (List.count_pos_iff.1 hpos)

/-- If a value conforms to one of several nodes, the number of those that it conforms to is not
zero. -/
lemma conformingCount_pos {child : NodeChecker} {count : Nat}
    (h : conformingCount child v path ns = .ok count) (hn : n ∈ ns)
    (hconforms : conforms child n v path = .ok true) : 0 < count := by
  rw [conformingCount_eq_map] at h
  obtain ⟨bs, hbs, rfl⟩ := map_eq_ok.1 h
  obtain ⟨b, hb, heq⟩ := (Permuted.of_forall₂ (mapM_eq_ok.1 hbs)).exists_right hn
  rw [hconforms] at heq
  obtain rfl := Except.ok.inj heq
  exact List.count_pos_iff.2 hb

/-- **Counting alternatives does not depend on their order.** -/
lemma conformingCount_agree (hnodes : Permuted R ns ms)
    (hchild : ∀ n m, R n m → AgreeOnNone (child₁ n v path) (child₂ m w path)) :
    Agree Eq (conformingCount child₁ v path ns) (conformingCount child₂ w path ms) := by
  rw [conformingCount_eq_map, conformingCount_eq_map]
  refine (Agree.mapM_permuted hnodes fun n m hnm => conforms_agree (hchild n m hnm)).map ?_
  intro bs cs hperm
  have hsame : bs.Perm cs := by simpa using hperm.map_perm (f := id) (g := id) fun _ _ => id
  exact hsame.count_eq true

/-- Alternatives in another order give the same issues. -/
lemma checkAnyOf_agree (hnodes : Permuted R s.anyOfList t.anyOfList)
    (hchild : ∀ n m, R n m → AgreeOnNone (child₁ n v path) (child₂ m w path)) :
    Agree Eq (checkAnyOf child₁ s v path) (checkAnyOf child₂ t w path) := by
  unfold checkAnyOf
  rw [hnodes.isEmpty_eq]
  split
  · exact .same _
  · refine (conformsToAny_agree hnodes hchild).bind ?_
    rintro any _ rfl
    exact .same _

/-- Alternatives that exclude each other give the same issues in another order. -/
lemma checkOneOf_agree (hnodes : Permuted R s.oneOfList t.oneOfList)
    (hchild : ∀ n m, R n m → AgreeOnNone (child₁ n v path) (child₂ m w path)) :
    Agree Eq (checkOneOf child₁ s v path) (checkOneOf child₂ t w path) := by
  unfold checkOneOf
  rw [hnodes.isEmpty_eq]
  split
  · exact .same _
  · refine (conformingCount_agree hnodes hchild).bind ?_
    rintro count _ rfl
    exact .same _

/-- A schema that must not match gives the same issues as one that matches alike. -/
lemma checkNot_agree (hnodes : Option.Rel R s.notSchema t.notSchema)
    (hchild : ∀ n m, R n m → AgreeOnNone (child₁ n v path) (child₂ m w path)) :
    Agree Eq (checkNot child₁ s v path) (checkNot child₂ t w path) := by
  unfold checkNot
  cases hs : s.notSchema <;> cases ht : t.notSchema <;> rw [hs, ht] at hnodes
  · exact .same _
  · cases hnodes
  · cases hnodes
  · obtain ⟨hnm⟩ := hnodes
    refine (conforms_agree (hchild _ _ hnm)).bind ?_
    rintro matching _ rfl
    exact .same _

end Validation

end DataSchema
