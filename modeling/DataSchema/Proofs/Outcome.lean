import Mathlib.Data.List.Forall2
import DataSchema.Trace
import DataSchema.Validation

set_option autoImplicit false

/-!
# Outcomes of sequences

How a sequence of computations that may fail comes to its outcome. A sequence succeeds when its
parts do, and fails with the first failure; a traced sequence has the outcome of the plain one and
the events of the parts that ran.

## Main results

* `DataSchema.bind_eq_ok`, `DataSchema.bind_eq_error` — the outcome of two computations in a row.
* `DataSchema.mapM_eq_ok`, `DataSchema.mapM_eq_error` — the outcome of a computation for each of
  several things.
* `DataSchema.Traced.outcome_mapM` — events have no influence on outcomes.
* `DataSchema.Validation.gather_eq_ok`, `DataSchema.Validation.gather_eq_error` — the issues of
  several things.
* `DataSchema.Validation.conformsToAny_congr`, `DataSchema.Validation.conformingCount_congr` —
  candidates that are judged alike.
-/

namespace DataSchema

section

variable {ε δ α β γ : Type}

/-- What is alike of things side by side is alike of the lists. -/
lemma map_eq_map_of_forall₂ {R : α → β → Prop} {f : α → γ} {g : β → γ} {xs : List α} {ys : List β}
    (h : List.Forall₂ R xs ys) (hfg : ∀ x y, R x y → f x = g y) : xs.map f = ys.map g := by
  induction h with
  | nil => rfl
  | cons hfirst _ ih => rw [List.map_cons, List.map_cons, hfg _ _ hfirst, ih]

/-! ## Plain computations -/

/-- A result without computation is a success. -/
@[simp] lemma pure_eq_ok (a : α) : (pure a : Except ε α) = .ok a := rfl

/-- Two computations in a row succeed when both do. -/
lemma bind_eq_ok {x : Except ε α} {f : α → Except ε β} {b : β} :
    (x >>= f) = .ok b ↔ ∃ a, x = .ok a ∧ f a = .ok b := by
  cases x with
  | ok a => simp [bind, Except.bind]
  | error e => simp [bind, Except.bind]

/-- Two computations in a row fail with the failure of the first, or else of the second. -/
lemma bind_eq_error {x : Except ε α} {f : α → Except ε β} {e : ε} :
    (x >>= f) = .error e ↔ x = .error e ∨ ∃ a, x = .ok a ∧ f a = .error e := by
  cases x with
  | ok a => simp [bind, Except.bind]
  | error e => simp [bind, Except.bind]

/-- A changed result is the change of a result. -/
lemma map_eq_ok {x : Except ε α} {f : α → β} {b : β} :
    x.map f = .ok b ↔ ∃ a, x = .ok a ∧ f a = b := by
  cases x with
  | ok a => simp [Except.map]
  | error e => simp [Except.map]

/-- A result is all that is left of an outcome. -/
lemma toOption_eq_some {x : Except ε α} {a : α} : x.toOption = some a ↔ x = .ok a := by
  cases x with
  | ok a => simp [Except.toOption]
  | error e => simp [Except.toOption]

/-- There is a changed result when there is a result. -/
lemma exists_map_eq_ok {x : Except ε α} {f : α → β} :
    (∃ b, x.map f = .ok b) ↔ ∃ a, x = .ok a := by
  simp only [map_eq_ok]
  exact ⟨fun ⟨_, a, ha, _⟩ => ⟨a, ha⟩, fun ⟨a, ha⟩ => ⟨f a, a, ha, rfl⟩⟩

/-- There is a result that is changed afterwards when there is a result. -/
lemma exists_bind_pure_eq_ok {x : Except ε α} {f : α → β} :
    (∃ b, (x >>= fun a => pure (f a)) = .ok b) ↔ ∃ a, x = .ok a := exists_map_eq_ok

/-- To change a result leaves failures as they are. -/
lemma map_eq_error {x : Except ε α} {f : α → β} {e : ε} :
    x.map f = .error e ↔ x = .error e := by
  cases x with
  | ok a => simp [Except.map]
  | error e => simp [Except.map]

/-- To change failures leaves results as they are. -/
lemma mapError_eq_ok {x : Except ε α} {f : ε → δ} {a : α} :
    x.mapError f = .ok a ↔ x = .ok a := by
  cases x with
  | ok a => simp [Except.mapError]
  | error e => simp [Except.mapError]

/-- A changed failure is the change of a failure. -/
lemma mapError_eq_error {x : Except ε α} {f : ε → δ} {d : δ} :
    x.mapError f = .error d ↔ ∃ e, x = .error e ∧ f e = d := by
  cases x with
  | ok a => simp [Except.mapError]
  | error e => simp [Except.mapError]

/-- A computation for each of several things succeeds when it does for every one. -/
lemma mapM_eq_ok {f : α → Except ε β} {xs : List α} {ys : List β} :
    xs.mapM f = .ok ys ↔ List.Forall₂ (fun x y => f x = .ok y) xs ys := by
  induction xs generalizing ys with
  | nil =>
    rw [List.mapM_nil, List.forall₂_nil_left_iff]
    exact ⟨fun h => (Except.ok.inj h).symm, fun h => by rw [h]; rfl⟩
  | cons x xs ih =>
    simp only [List.mapM_cons, bind_eq_ok, pure_eq_ok, ih, List.forall₂_cons_left_iff]
    constructor
    · rintro ⟨y, hy, zs, hzs, h⟩
      exact ⟨y, zs, hy, hzs, (Except.ok.inj h).symm⟩
    · rintro ⟨y, zs, hy, hzs, rfl⟩
      exact ⟨y, hy, zs, hzs, rfl⟩

/-- A computation for each of several things succeeds if it does for every one. -/
lemma exists_mapM_eq_ok {f : α → Except ε β} {xs : List α} (h : ∀ x ∈ xs, ∃ y, f x = .ok y) :
    ∃ ys, xs.mapM f = .ok ys := by
  induction xs with
  | nil => exact ⟨[], rfl⟩
  | cons x xs ih =>
    obtain ⟨y, hy⟩ := h x List.mem_cons_self
    obtain ⟨ys, hys⟩ := ih fun x' hx' => h x' (List.mem_cons_of_mem x hx')
    exact ⟨y :: ys, mapM_eq_ok.2 (.cons hy (mapM_eq_ok.1 hys))⟩

/-- A computation for each of several things fails as it does for one of them. -/
lemma mapM_eq_error {f : α → Except ε β} {xs : List α} {e : ε} (h : xs.mapM f = .error e) :
    ∃ x ∈ xs, f x = .error e := by
  induction xs with
  | nil => cases h
  | cons x xs ih =>
    simp only [List.mapM_cons, bind_eq_error, pure_eq_ok] at h
    rcases h with h | ⟨y, -, h | ⟨zs, -, h⟩⟩
    · exact ⟨x, List.mem_cons_self, h⟩
    · obtain ⟨x', hx', h'⟩ := ih h
      exact ⟨x', List.mem_cons_of_mem x hx', h'⟩
    · cases h

end

/-! ## Traced computations -/

namespace Traced

variable {ε α β : Type}

/-- Traced computations are a lawful monad: events are put in a row, and a row of rows is a row. -/
instance : LawfulMonad (Traced ε) := by
  refine LawfulMonad.mk' _ ?_ ?_ ?_
  · rintro α ⟨es, o⟩
    cases o <;> simp [Functor.map, andThen, result]
  · intro α β a f
    simp [bind, pure, andThen, result]
  · intro α β γ x f g
    obtain ⟨es, o⟩ := x
    cases o with
    | error e => rfl
    | ok a => cases h : (f a).outcome <;> simp [bind, andThen, h]

/-- The outcome for each of several things does not depend on events. -/
lemma outcome_mapM (f : α → Traced ε β) (xs : List α) :
    (xs.mapM f).outcome = xs.mapM fun x => (f x).outcome := by
  induction xs with
  | nil => rfl
  | cons x xs ih => simp only [List.mapM_cons, outcome_bind, outcome_pure, ih, pure_eq_ok]

end Traced

/-! ## Gathered issues -/

/-- A check that is seen to succeed and to find nothing is the empty list of issues. -/
lemma eq_ok_nil_of_isEmpty {x : Check} (h : (x.map List.isEmpty).toOption = some true) :
    x = .ok [] := by
  cases x with
  | ok is =>
    cases is with
    | nil => rfl
    | cons i is => cases h
  | error f => cases h

/-- A check that is seen to succeed and to find issues of certain kinds finds such issues. -/
lemma exists_ok_of_kinds {x : Check} {kinds : List IssueKind}
    (h : (x.map (List.map Issue.kind)).toOption = some kinds) :
    ∃ is, x = .ok is ∧ is.map Issue.kind = kinds := by
  cases x with
  | ok is => exact ⟨is, rfl, Option.some.inj h⟩
  | error f => cases h

namespace Validation

variable {α : Type}

/-- Nothing is gathered of nothing. -/
lemma gather_nil (f : α → Check) : gather [] f = .ok [] := rfl

/-- The issues gathered are those of the first thing, and those gathered of the others. -/
lemma gather_cons (f : α → Check) (x : α) (xs : List α) :
    gather (x :: xs) f = (do
      let first ← f x
      let others ← gather xs f
      return first ++ others) := by
  unfold gather
  rw [List.mapM_cons]
  cases f x with
  | error e => rfl
  | ok first => cases xs.mapM f <;> rfl

/-- Checks that agree on each of several things gather the same. -/
lemma gather_congr {f g : α → Check} {xs : List α} (h : ∀ x ∈ xs, f x = g x) :
    gather xs f = gather xs g := by
  induction xs with
  | nil => rfl
  | cons x xs ih =>
    have hothers := ih fun y hy => h y (List.mem_cons_of_mem x hy)
    rw [gather_cons, gather_cons, h x List.mem_cons_self, hothers]

/-- The issues gathered are those of each thing, in order. -/
lemma gather_eq_ok {f : α → Check} {xs : List α} {is : List Issue} :
    gather xs f = .ok is ↔
      ∃ parts, List.Forall₂ (fun x part => f x = .ok part) xs parts ∧ parts.flatten = is := by
  rw [gather, map_eq_ok]
  simp only [mapM_eq_ok]

/-- Gathering stops as checking one of the things does. -/
lemma gather_eq_error {f : α → Check} {xs : List α} {e : Fault} (h : gather xs f = .error e) :
    ∃ x ∈ xs, f x = .error e :=
  mapM_eq_error (map_eq_error.1 h)

/-- The issues gathered come from one of the things. -/
lemma mem_of_gather {f : α → Check} {xs : List α} {is : List Issue} (h : gather xs f = .ok is)
    {i : Issue} (hi : i ∈ is) : ∃ x ∈ xs, ∃ part, f x = .ok part ∧ i ∈ part := by
  obtain ⟨parts, hparts, rfl⟩ := gather_eq_ok.1 h
  clear h
  induction hparts with
  | nil => simp at hi
  | @cons x part xs parts hx _ ih =>
    rw [List.flatten_cons, List.mem_append] at hi
    rcases hi with hi | hi
    · exact ⟨x, List.mem_cons_self, part, hx, hi⟩
    · obtain ⟨y, hy, h⟩ := ih hi
      exact ⟨y, List.mem_cons_of_mem x hy, h⟩

/-- The issues of each of the things are gathered. -/
lemma subset_gather {f : α → Check} {xs : List α} {is : List Issue} (h : gather xs f = .ok is)
    {x : α} (hx : x ∈ xs) : ∃ part, f x = .ok part ∧ part ⊆ is := by
  obtain ⟨parts, hparts, rfl⟩ := gather_eq_ok.1 h
  clear h
  induction hparts with
  | nil => cases hx
  | @cons y part xs parts hy _ ih =>
    rw [List.flatten_cons]
    rcases List.mem_cons.1 hx with rfl | hx
    · exact ⟨part, hy, List.subset_append_left _ _⟩
    · obtain ⟨part', hpart', hsub⟩ := ih hx
      exact ⟨part', hpart', List.subset_append_of_subset_right _ hsub⟩

/-- No issue is gathered exactly when every thing is checked without one. -/
lemma gather_eq_nil {f : α → Check} {xs : List α} :
    gather xs f = .ok [] ↔ ∀ x ∈ xs, f x = .ok [] := by
  induction xs with
  | nil => simp [gather, Except.map]
  | cons x xs ih =>
    rw [gather_eq_ok]
    constructor
    · rintro ⟨parts, hparts, hflat⟩
      obtain ⟨part, rest, hx, hrest, rfl⟩ := List.forall₂_cons_left_iff.1 hparts
      rw [List.flatten_cons, List.append_eq_nil_iff] at hflat
      have htail : gather xs f = .ok [] := gather_eq_ok.2 ⟨rest, hrest, hflat.2⟩
      rintro y hy
      rcases List.mem_cons.1 hy with rfl | hy
      · rw [hx, hflat.1]
      · exact ih.1 htail y hy
    · intro h
      obtain ⟨rest, hrest, hflat⟩ :=
        gather_eq_ok.1 (ih.2 fun y hy => h y (List.mem_cons_of_mem x hy))
      exact ⟨[] :: rest, .cons (h x List.mem_cons_self) hrest, by simpa using hflat⟩

/-- One issue if a condition holds: none exactly when it does not. -/
@[simp] lemma issueIf_eq_nil {holds : Bool} {issue : Issue} :
    issueIf holds issue = [] ↔ holds = false := by
  cases holds <;> simp [issueIf]

/-! ## Candidates -/

section

variable {child child' : NodeChecker} {v w : Value} {path : Path} {nodes : List Node}

/-- Values conform to any of several nodes alike if they conform to each alike. -/
lemma conformsToAny_congr (h : ∀ c ∈ nodes, conforms child c v path = conforms child' c w path) :
    conformsToAny child v path nodes = conformsToAny child' w path nodes := by
  induction nodes with
  | nil => rfl
  | cons c cs ih =>
    have hothers := ih fun c' hc' => h c' (List.mem_cons_of_mem c hc')
    rw [conformsToAny, conformsToAny, h c List.mem_cons_self, hothers]

/-- Values conform to as many of several nodes if they conform to each alike. -/
lemma conformingCount_congr
    (h : ∀ c ∈ nodes, conforms child c v path = conforms child' c w path) :
    conformingCount child v path nodes = conformingCount child' w path nodes := by
  induction nodes with
  | nil => rfl
  | cons c cs ih =>
    have hothers := ih fun c' hc' => h c' (List.mem_cons_of_mem c hc')
    rw [conformingCount, conformingCount, h c List.mem_cons_self, hothers]

end

end Validation

end DataSchema
