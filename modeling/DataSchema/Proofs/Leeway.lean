import DataSchema.Proofs.Outcome
import DataSchema.Casting

set_option autoImplicit false

/-!
# Runs side by side

Two runs of a check or of a cast that differ in what must not matter: where the value stands, how
much depth is left, which references are open. A *leeway* says which locations correspond, and
which faults and events of the first run excuse the second from any promise. Runs are related when
the first is excused, or both end alike; the relation goes through sequences, so that it holds of
a whole evaluation once it holds of the steps in which the runs differ.

## Main definitions

* `DataSchema.escapes` — whether an evaluation stops for another reason than the depth guard.
* `DataSchema.Leeway` — what two runs may differ in.
* `DataSchema.Leeway.SameChecks`, `DataSchema.Leeway.SameCasts` — related checks and casts.

## Main results

* `DataSchema.Leeway.SameChecks.bind`, `DataSchema.Leeway.SameChecks.mapM` — sequences of related
  checks.
* `DataSchema.Leeway.SameCasts.bind`, `DataSchema.Leeway.SameCasts.mapM` — sequences of related
  casts.
* `DataSchema.Leeway.SameCasts.outcome_ok` — a run that nothing excuses gives its result to the
  other.
-/

namespace DataSchema

/-- Whether a fault is that of the depth guard. -/
def Fault.isTooDeep : Fault → Bool
  | tooDeep .. => true
  | _ => false

/-- Whether an evaluation stops for another reason than the depth guard. -/
def escapes {α : Type} : Except Fault α → Bool
  | .ok _ => false
  | .error f => !f.isTooDeep

/-- An evaluation does not escape when whatever stops it is the depth guard. -/
lemma escapes_eq_false {α : Type} {x : Except Fault α} :
    escapes x = false ↔ ∀ f, x = .error f → f.isTooDeep = true := by
  cases x <;> simp [escapes]

/-- Faults are alike when they are the same, the limit and the place of the depth guard apart. -/
def Fault.Alike (f g : Fault) : Prop := f = g ∨ f.isTooDeep = true ∧ g.isTooDeep = true

/-- Every fault is like itself. -/
@[refl] lemma Fault.Alike.refl (f : Fault) : f.Alike f := .inl rfl

/-- What two runs may differ in. -/
structure Leeway where
  /-- The locations of the first run and those of the second that correspond. -/
  place : Path → Path → Prop
  /-- Locations keep corresponding one step further. -/
  place_step : ∀ {p q : Path}, place p q → ∀ token, place (p ++ [token]) (q ++ [token])
  /-- The faults of the first run that excuse the second. -/
  fault : Fault → Prop
  /-- The events of the first run that excuse the second. -/
  event : Event → Prop

namespace Leeway

variable (L : Leeway) {α β γ δ : Type}

/-- Issues that say the same of corresponding locations. -/
structure SameIssues (i j : Issue) : Prop where
  kind : i.kind = j.kind
  message : i.message = j.message
  path : L.place i.path j.path

/-- Related checks: the first is excused by its fault, or both end alike. -/
inductive SameChecks (R : α → β → Prop) : Except Fault α → Except Fault β → Prop
  | excused {f : Fault} {y : Except Fault β} : L.fault f → SameChecks R (.error f) y
  | error {f g : Fault} : f.Alike g → SameChecks R (.error f) (.error g)
  | ok {a : α} {b : β} : R a b → SameChecks R (.ok a) (.ok b)

/-- Related endings of casts. -/
inductive SameEndings (R : α → β → Prop) : Except CastFailure α → Except CastFailure β → Prop
  | excused {f : Fault} {y : Except CastFailure β} :
    L.fault f → SameEndings R (.error (.fault f)) y
  | fault {f g : Fault} : f.Alike g → SameEndings R (.error (.fault f)) (.error (.fault g))
  | issues {is js : List Issue} :
    List.Forall₂ L.SameIssues is js → SameEndings R (.error (.issues is)) (.error (.issues js))
  | ok {a : α} {b : β} : R a b → SameEndings R (.ok a) (.ok b)

/-- Whether an event of a cast excuses another. -/
def Excuses (x : Casts α) : Prop := ∃ e ∈ x.events, L.event e

/-- Related casts: the first is excused by an event, or both end in related ways. -/
def SameCasts (R : α → β → Prop) (x : Casts α) (y : Casts β) : Prop :=
  L.Excuses x ∨ L.SameEndings R x.outcome y.outcome

variable {L}

/-! ## Checks -/

namespace SameChecks

variable {R : α → β → Prop} {S : γ → δ → Prop}

/-- A check is related to itself. -/
lemma refl {R : α → α → Prop} (hR : ∀ a, R a a) (x : Except Fault α) : L.SameChecks R x x := by
  cases x with
  | ok a => exact .ok (hR a)
  | error f => exact .error (.refl f)

/-- Related checks followed by related checks are related. -/
lemma bind {x : Except Fault α} {y : Except Fault β} {f : α → Except Fault γ}
    {g : β → Except Fault δ} (h : L.SameChecks R x y)
    (hf : ∀ a b, R a b → L.SameChecks S (f a) (g b)) :
    L.SameChecks S (x >>= f) (y >>= g) := by
  cases h with
  | excused h => exact .excused h
  | error h => exact .error h
  | ok h => exact hf _ _ h

/-- The same check followed by related checks. -/
lemma bind_same {x : Except Fault α} {f : α → Except Fault γ} {g : α → Except Fault δ}
    (hf : ∀ a, L.SameChecks S (f a) (g a)) : L.SameChecks S (x >>= f) (x >>= g) :=
  bind (refl (fun _ => rfl) x) fun a _ hab => hab ▸ hf a

/-- Related checks with their results changed alike. -/
lemma map {x : Except Fault α} {y : Except Fault β} {f : α → γ} {g : β → δ}
    (h : L.SameChecks R x y) (hf : ∀ a b, R a b → S (f a) (g b)) :
    L.SameChecks S (x.map f) (y.map g) := by
  cases h with
  | excused h => exact .excused h
  | error h => exact .error h
  | ok h => exact .ok (hf _ _ h)

/-- Related checks of each of several things. -/
lemma mapM {ι : Type} {xs : List ι} {f : ι → Except Fault α} {g : ι → Except Fault β}
    (h : ∀ x ∈ xs, L.SameChecks R (f x) (g x)) :
    L.SameChecks (List.Forall₂ R) (xs.mapM f) (xs.mapM g) := by
  induction xs with
  | nil => exact .ok .nil
  | cons x xs ih =>
    rw [List.mapM_cons, List.mapM_cons]
    refine bind (h x List.mem_cons_self) fun a b hab => ?_
    refine bind (ih fun y hy => h y (List.mem_cons_of_mem x hy)) fun as bs habs => ?_
    exact .ok (.cons hab habs)

/-- A check that is not excused and succeeds makes a related one succeed. -/
lemma eq_ok {x : Except Fault α} {y : Except Fault β} {a : α} (h : L.SameChecks R x y)
    (hx : x = .ok a) : ∃ b, y = .ok b ∧ R a b := by
  subst hx
  cases h with
  | ok h => exact ⟨_, rfl, h⟩

end SameChecks

/-! ## Casts -/

namespace SameCasts

variable {R : α → β → Prop} {S : γ → δ → Prop}

/-- Events of the first of two casts in a row excuse as much as before. -/
lemma excuses_bind {x : Casts α} (f : α → Casts γ) (h : L.Excuses x) :
    L.Excuses (x >>= f) := by
  obtain ⟨e, he, hevent⟩ := h
  refine ⟨e, ?_, hevent⟩
  obtain ⟨es, o⟩ := x
  cases o with
  | ok a => exact List.mem_append_left _ he
  | error f => exact he

/-- Events of the second of two casts in a row excuse as much as before. -/
lemma excuses_bind_right {x : Casts α} {f : α → Casts γ} {a : α}
    (hx : x.outcome = .ok a) (h : L.Excuses (f a)) : L.Excuses (x >>= f) := by
  obtain ⟨e, he, hevent⟩ := h
  refine ⟨e, ?_, hevent⟩
  obtain ⟨es, o⟩ := x
  subst hx
  exact List.mem_append_right _ he

/-- Results without events. -/
lemma pure {a : α} {b : β} (h : R a b) : L.SameCasts R (Pure.pure a) (Pure.pure b) :=
  .inr (.ok h)

/-- Related casts followed by related casts are related. -/
lemma bind {x : Casts α} {y : Casts β} {f : α → Casts γ} {g : β → Casts δ}
    (h : L.SameCasts R x y)
    (hf : ∀ a b, R a b → L.SameCasts S (f a) (g b)) : L.SameCasts S (x >>= f) (y >>= g) := by
  rcases h with h | h
  · exact .inl (excuses_bind f h)
  · unfold SameCasts
    rw [Traced.outcome_bind, Traced.outcome_bind]
    cases hx : x.outcome with
    | ok a =>
      rw [hx] at h
      generalize hy : y.outcome = oy at h
      cases h with
      | ok hab =>
        rcases hf _ _ hab with h | h
        · exact .inl (excuses_bind_right hx h)
        · exact .inr h
    | error e =>
      rw [hx] at h
      generalize hy : y.outcome = oy at h
      right
      cases h with
      | excused h => exact .excused h
      | fault h => exact .fault h
      | issues h => exact .issues h

/-- The same steps of a cast followed by related casts. -/
lemma bind_same {x y : Casts α} {f : α → Casts γ} {g : α → Casts δ}
    (h : L.SameCasts Eq x y) (hf : ∀ a, L.SameCasts S (f a) (g a)) :
    L.SameCasts S (x >>= f) (y >>= g) :=
  bind h fun a _ hab => hab ▸ hf a

/-- Related casts of each of several things. -/
lemma mapM {ι : Type} {xs : List ι} {f : ι → Casts α} {g : ι → Casts β}
    (h : ∀ x ∈ xs, L.SameCasts R (f x) (g x)) :
    L.SameCasts (List.Forall₂ R) (xs.mapM f) (xs.mapM g) := by
  induction xs with
  | nil => exact pure .nil
  | cons x xs ih =>
    rw [List.mapM_cons, List.mapM_cons]
    refine bind (h x List.mem_cons_self) fun a b hab => ?_
    refine bind (ih fun y hy => h y (List.mem_cons_of_mem x hy)) fun as bs habs => ?_
    exact pure (.cons hab habs)

/-- Casts of each of several things that give the same result for each. -/
lemma mapM_same {ι : Type} {xs : List ι} {f g : ι → Casts α}
    (h : ∀ x ∈ xs, L.SameCasts Eq (f x) (g x)) : L.SameCasts Eq (xs.mapM f) (xs.mapM g) := by
  have hall := mapM h
  rw [List.forall₂_eq_eq_eq] at hall
  exact hall

/-- Related casts that come after an event each. -/
lemma emit {e e' : Event} {x : Casts α} {y : Casts β} (h : L.SameCasts R x y) :
    L.SameCasts R (Traced.emit e >>= fun _ => x) (Traced.emit e' >>= fun _ => y) :=
  bind (.inr (.ok (R := fun _ _ => True) trivial)) fun _ _ _ => h

/-- Casts that fail with one issue each at corresponding locations. -/
lemma fail {p q : Path} (h : L.place p q) (kind : IssueKind) (message : String) :
    L.SameCasts R (Casting.fail kind message p) (Casting.fail kind message q) :=
  .inr (.issues (.cons ⟨rfl, rfl, h⟩ .nil))

/-- Casts that stop with the same fault. -/
lemma stop (f : Fault) : L.SameCasts R (Casting.stop f) (Casting.stop f) :=
  .inr (.fault (.refl f))

/-- Related checks as casts. -/
lemma guarded {x : Except Fault α} {y : Except Fault β} (h : L.SameChecks R x y) :
    L.SameCasts R (Casting.guarded x) (Casting.guarded y) := by
  right
  cases h with
  | excused h => exact .excused h
  | error h => exact .fault h
  | ok h => exact .ok h

/-- Related requirements that nothing is found. -/
lemma require {x y : Check} (h : L.SameChecks (List.Forall₂ L.SameIssues) x y) :
    L.SameCasts Eq (Casting.require x) (Casting.require y) := by
  refine bind (guarded h) fun is js hij => ?_
  cases hij with
  | nil => exact pure rfl
  | cons h hs => exact .inr (.issues (.cons h hs))

/-- Related casts, tried. -/
lemma attempt {x y : Casts Value} (h : L.SameCasts Eq x y) :
    L.SameCasts Eq (Casting.attempt x) (Casting.attempt y) := by
  obtain ⟨es, ox⟩ := x
  obtain ⟨fs, oy⟩ := y
  rcases h with ⟨e, he, hevent⟩ | h
  · refine .inl ⟨e, ?_, hevent⟩
    rcases ox with (is | f) | v <;> exact he
  · right
    cases h with
    | excused h => exact .excused h
    | fault h => exact .fault h
    | issues h => exact .ok rfl
    | ok h => exact .ok (congrArg some h)

/-- A cast that reports nothing that excuses another makes a related one succeed with the same
result. -/
lemma outcome_ok {x y : Casts α} {a : α} (h : L.SameCasts Eq x y) (hx : x.outcome = .ok a)
    (hevents : ∀ e ∈ x.events, ¬L.event e) : y.outcome = .ok a := by
  rcases h with ⟨e, he, hevent⟩ | h
  · exact absurd hevent (hevents e he)
  · rw [hx] at h
    generalize y.outcome = oy at h
    cases h with
    | ok h => rw [h]

end SameCasts

end Leeway

end DataSchema
