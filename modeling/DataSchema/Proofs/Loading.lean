import Mathlib.Data.List.Basic
import DataSchema.Proofs.Outcome
import DataSchema.Store.SchemaFiles

set_option autoImplicit false

/-!
# Loads in a row

A load leaves the texts as they are and keeps, if anything, the document that it has found. So the
document found at any place is the same before and after, and loads in a row come to what each of
them would have come to alone.

## Main definitions

* `DataSchema.Store.found` — the document at a place, kept or read.

## Main results

* `DataSchema.Loads.outcome_bind` — the outcome of loads in a row.
* `DataSchema.Store.load_outcome` — a load by the place that its path leads to.
* `DataSchema.Store.load_load` — a load has no influence on the next.
-/

namespace DataSchema

namespace Loads

variable {α β : Type}

/-- To load nothing gives the result. -/
@[simp] lemma outcome_pure (a : α) (s : Store) : ((pure a : Loads α) s).2.outcome = .ok a := rfl

/-- A computation that loads nothing has its own outcome. -/
@[simp] lemma outcome_lift (x : Reads α) (s : Store) : (lift x s).2.outcome = x.outcome := rfl

/-- A computation that loads nothing leaves the store as it is. -/
@[simp] lemma store_lift (x : Reads α) (s : Store) : (lift x s).1 = s := rfl

/-- Of two computations in a row, the second starts with the store that the first leaves. -/
lemma outcome_bind (x : Loads α) (f : α → Loads β) (s : Store) :
    ((x >>= f) s).2.outcome = (x s).2.outcome >>= fun a => (f a (x s).1).2.outcome := by
  change (andThen x f s).2.outcome = _
  unfold andThen
  cases h : (x s).2.outcome with
  | ok a => simp [h, bind, Except.bind]
  | error e => simp [h, bind, Except.bind]

end Loads

namespace Store

/-- The document at a place: the one that is kept, or else the one that is read. -/
def found (s : Store) (place : Place) : Except DocumentFault Value :=
  match s.cached? place with
  | some document => .ok document
  | none => documentOf ((s.directory.text? place).getD "")

/-- A load comes to the document at the place that its path leads to. -/
lemma load_outcome (path : String) (s : Store) :
    (load path s).2.outcome =
      match s.directory.locate? (.ofText path) with
      | none => .error (.definition (.documentNotFound (DocumentPath.ofText path).text))
      | some place => (s.found place).mapError (unreadable (DocumentPath.ofText path).text) := by
  unfold load found
  dsimp only
  cases s.directory.locate? (.ofText path) with
  | none => rfl
  | some place =>
    dsimp only
    cases s.cached? place with
    | some document => rfl
    | none => cases documentOf ((s.directory.text? place).getD "") <;> rfl

/-- What is found at other places does not depend on what is kept for a place. -/
lemma lookup_filter_ne {place place' : Place} (h : place' ≠ place) (kept : List (Place × Value)) :
    (kept.filter fun e => e.1 != place).lookup place' = kept.lookup place' := by
  induction kept with
  | nil => rfl
  | cons e kept ih =>
    obtain ⟨q, document⟩ := e
    by_cases hq : q = place
    · have hne : (place' == q) = false := beq_eq_false_iff_ne.2 (hq ▸ h)
      rw [List.filter_cons_of_neg (by simp [hq]), List.lookup_cons, hne]
      exact ih
    · rw [List.filter_cons_of_pos (by simp [hq]), List.lookup_cons, List.lookup_cons, ih]

/-- What is kept for a place, and what was kept for the others. -/
lemma cached?_keep (s : Store) (place place' : Place) (document : Value) :
    (s.keep place document).cached? place' =
      if s.caching = true ∧ place' = place then some document else s.cached? place' := by
  unfold keep cached?
  cases hcaching : s.caching with
  | false => simp [hcaching]
  | true =>
    by_cases hplace : place' = place
    · simp [hplace]
    · have hne : (place' == place) = false := beq_eq_false_iff_ne.2 hplace
      simp [hplace, hne, List.lookup_cons, lookup_filter_ne hplace]

/-- A load changes no text, and nothing about the documents that are found. -/
lemma load_found (path : String) (s : Store) :
    (load path s).1.directory = s.directory ∧
      ∀ place, (load path s).1.found place = s.found place := by
  unfold load
  dsimp only
  split
  · exact ⟨rfl, fun _ => rfl⟩
  next place _ =>
    cases hkept : s.cached? place with
    | some document => exact ⟨rfl, fun _ => rfl⟩
    | none =>
      cases hread : documentOf ((s.directory.text? place).getD "") with
      | error fault => exact ⟨rfl, fun _ => rfl⟩
      | ok document =>
        have hdirectory : (s.keep place document).directory = s.directory := by
          unfold keep
          split <;> rfl
        refine ⟨hdirectory, fun place' => ?_⟩
        dsimp only
        rw [found, found, cached?_keep, hdirectory]
        by_cases hplace : s.caching = true ∧ place' = place
        · rw [if_pos hplace, hplace.2, hkept]
          exact hread.symm
        · rw [if_neg hplace]

/-- **Loads do not depend on each other**: after a load, every load comes to what it would have come
to before. -/
theorem load_load (path path' : String) (s : Store) :
    (load path' (load path s).1).2.outcome = (load path' s).2.outcome := by
  obtain ⟨hdirectory, hfound⟩ := load_found path s
  rw [load_outcome, load_outcome, hdirectory]
  split
  · rfl
  · rw [hfound]

end Store

end DataSchema
