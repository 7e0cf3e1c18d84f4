import Mathlib
import DataSchema.Proofs.Loading

set_option autoImplicit false

/-!
# Kept documents over whole runs

Texts are written and removed, documents are loaded, the store is cleared, and keeping documents is
switched on and off, in any order. What a load comes to then depends on the whole run: while
documents are kept it is the document of the first load of that place since the store was cleared,
whatever has become of the text in the meantime, and in all other cases what the text is read as.

## Main definitions

* `DataSchema.Store.Step`, `DataSchema.Store.run` — what happens to a store, and runs of it.
* `DataSchema.Store.LoadsAs` — a load while documents are kept, and what it comes to.
* `DataSchema.Store.LoadedSince`, `DataSchema.Store.FirstLoaded` — such loads in a run since the
  store was cleared, and the first of them.

## Main results

* `DataSchema.Store.lookup_load` — what one load does to the documents that are kept.
* `DataSchema.Store.lookup_run` — what is kept after a run was loaded first.
* `DataSchema.Store.load_after_run` — what a load after a run comes to.
-/

namespace DataSchema

namespace Store

/-! ## Runs -/

/-- Something that happens to a store. -/
inductive Step
  /-- A text is written. -/
  | write (path text : String)
  /-- A text is removed. -/
  | remove (path : String)
  /-- The documents that are kept are forgotten. -/
  | clear
  /-- Keeping documents is switched on or off. -/
  | switch (caching : Bool)
  /-- A document is loaded. -/
  | load (path : String)

/-- The store after a step. To remove what is not there changes nothing. -/
def after (s : Store) : Step → Store
  | .write path text => s.write path text
  | .remove path => (s.remove? path).getD s
  | .clear => s.clear
  | .switch caching => { s with caching }
  | .load path => (load path s).1

/-- The store after some steps. -/
def run (s : Store) (steps : List Step) : Store := steps.foldl after s

/-- While documents are kept, a load of a path that leads to a place comes to a document. -/
structure LoadsAs (s : Store) (path : String) (place : Place) (document : Value) : Prop where
  /-- Documents are kept. -/
  caching : s.caching = true
  /-- The path leads to the place. -/
  place : s.directory.locate? (.ofText path) = some place
  /-- The load succeeds. -/
  outcome : (load path s).2.outcome = .ok document

/-- In a run a document has been loaded for a place, while documents were kept, and the store has
not been cleared since. -/
def LoadedSince (s : Store) (steps : List Step) (place : Place) (document : Value) : Prop :=
  ∃ before path rest, steps = before ++ .load path :: rest ∧ .clear ∉ rest ∧
    (s.run before).LoadsAs path place document

/-- In a run a document has been loaded for a place, while documents were kept, for the first time
since the store was cleared. -/
def FirstLoaded (s : Store) (steps : List Step) (place : Place) (document : Value) : Prop :=
  ∃ before path rest, steps = before ++ .load path :: rest ∧ .clear ∉ rest ∧
    (s.run before).LoadsAs path place document ∧ ∀ d, ¬ s.LoadedSince before place d

variable {s : Store} {steps : List Step} {step : Step} {place : Place} {document : Value}

/-- One step more. -/
lemma run_concat (s : Store) (steps : List Step) (step : Step) :
    s.run (steps ++ [step]) = (s.run steps).after step := by
  simp [run, List.foldl_append]

/-! ## One more step -/

/-- What holds of a step after which the store is not cleared holds, one step later, of that step
or of the last, unless the store is cleared. -/
lemma exists_split_concat {P : List Step → String → Prop} :
    (∃ before path rest, steps ++ [step] = before ++ .load path :: rest ∧ .clear ∉ rest ∧
        P before path) ↔
      (step ≠ .clear ∧ ∃ before path rest, steps = before ++ .load path :: rest ∧ .clear ∉ rest ∧
        P before path) ∨ ∃ path, step = .load path ∧ P steps path := by
  constructor
  · rintro ⟨before, path, rest, hsteps, hclear, hP⟩
    rcases List.eq_nil_or_concat rest with rfl | ⟨rest, last, rfl⟩
    · obtain ⟨rfl, hlast⟩ := List.append_inj' hsteps rfl
      obtain rfl := List.head_eq_of_cons_eq hlast
      exact .inr ⟨path, rfl, hP⟩
    · rw [List.concat_eq_append] at hsteps hclear
      rw [← List.cons_append, ← List.append_assoc] at hsteps
      obtain ⟨hinit, hlast⟩ := List.append_inj' hsteps rfl
      obtain rfl := List.head_eq_of_cons_eq hlast
      rw [List.mem_append, not_or, List.mem_singleton] at hclear
      exact .inl ⟨Ne.symm hclear.2, before, path, rest, hinit, hclear.1, hP⟩
  · rintro (⟨hstep, before, path, rest, rfl, hclear, hP⟩ | ⟨path, rfl, hP⟩)
    · refine ⟨before, path, rest ++ [step], by simp, ?_, hP⟩
      rw [List.mem_append, not_or, List.mem_singleton]
      exact ⟨hclear, Ne.symm hstep⟩
    · exact ⟨steps, path, [], rfl, List.not_mem_nil, hP⟩

/-- A document has been loaded since if it had been before the last step and this did not clear the
store, or if the last step has loaded it. -/
lemma loadedSince_concat :
    s.LoadedSince (steps ++ [step]) place document ↔
      (step ≠ .clear ∧ s.LoadedSince steps place document) ∨
        ∃ path, step = .load path ∧ (s.run steps).LoadsAs path place document :=
  exists_split_concat

/-- A document has been loaded first if it had been before the last step and this did not clear the
store, or if the last step has loaded it and none had been loaded before. -/
lemma firstLoaded_concat :
    s.FirstLoaded (steps ++ [step]) place document ↔
      (step ≠ .clear ∧ s.FirstLoaded steps place document) ∨
        ∃ path, step = .load path ∧ (s.run steps).LoadsAs path place document ∧
          ∀ d, ¬ s.LoadedSince steps place d :=
  exists_split_concat

/-! ## What is kept -/

/-- A step that neither clears the store nor loads leaves what is kept. -/
lemma cache_after (hclear : step ≠ .clear) (hload : ∀ path, step ≠ .load path) :
    (s.after step).cache = s.cache := by
  cases step with
  | write path text => rfl
  | remove path =>
    rw [after, remove?]
    cases s.directory.remove? (.ofText path) with
    | none => rfl
    | some d => rfl
  | clear => exact absurd rfl hclear
  | switch caching => rfl
  | load path => exact absurd rfl (hload path)

/-- **What a load does to what is kept**: a document stays, and where none is kept the one that is
found is kept from then on, if the path leads there and documents are kept. -/
lemma lookup_load_eq (s : Store) (path : String) (place : Place) :
    (load path s).1.cache.lookup place = (s.cache.lookup place).or
      (if s.caching = true ∧ s.directory.locate? (.ofText path) = some place then
        (s.found place).toOption else none) := by
  unfold load found
  dsimp only
  cases s.directory.locate? (.ofText path) with
  | none => simp
  | some place' =>
    dsimp only
    cases hcaching : s.caching with
    | false =>
      have hkeep : ∀ d, s.keep place' d = s := fun d => by
        rw [keep, hcaching, if_neg Bool.false_ne_true]
      cases s.cached? place' with
      | some d => simp
      | none => cases documentOf ((s.directory.text? place').getD "") <;> simp [hkeep]
    | true =>
      have hcached : ∀ p, s.cached? p = s.cache.lookup p := fun p => by
        rw [cached?, hcaching, if_pos rfl]
      by_cases hplace : place' = place
      · subst hplace
        rw [hcached]
        cases hkept : s.cache.lookup place' with
        | some d => simp [hkept]
        | none =>
          cases documentOf ((s.directory.text? place').getD "") with
          | error fault => simp [hkept, Except.toOption]
          | ok d => simp [keep, hcaching, Except.toOption]
      · have hkeep : ∀ d, (s.keep place' d).cache.lookup place = s.cache.lookup place := by
          intro d
          have hne : (place == place') = false := beq_eq_false_iff_ne.2 fun h => hplace h.symm
          rw [keep, hcaching, if_pos rfl, List.lookup_cons, hne]
          exact lookup_filter_ne (fun h => hplace h.symm) s.cache
        cases s.cached? place' with
        | some d => simp [hplace]
        | none =>
          cases documentOf ((s.directory.text? place').getD "") <;> simp [hplace, hkeep]

/-- A load while documents are kept comes to what is found at the place. -/
lemma loadsAs_iff {path : String} : s.LoadsAs path place document ↔
    s.caching = true ∧ s.directory.locate? (.ofText path) = some place ∧
      s.found place = .ok document := by
  constructor
  · rintro ⟨hcaching, hplace, h⟩
    rw [load_outcome, hplace] at h
    exact ⟨hcaching, hplace, mapError_eq_ok.1 h⟩
  · rintro ⟨hcaching, hplace, h⟩
    refine ⟨hcaching, hplace, ?_⟩
    rw [load_outcome, hplace]
    exact mapError_eq_ok.2 h

/-- After a load, a document is kept if it was, or if none was and the load has come to it. -/
lemma lookup_load (s : Store) (path : String) (place : Place) (document : Value) :
    (load path s).1.cache.lookup place = some document ↔
      s.cache.lookup place = some document ∨
        s.cache.lookup place = none ∧ s.LoadsAs path place document := by
  rw [lookup_load_eq, loadsAs_iff, Option.or_eq_some_iff, ← toOption_eq_some]
  simp only [Option.ite_none_right_eq_some, and_assoc]

/-- **What is kept after a run**: a document is kept exactly for the places that have been loaded
since the store was cleared, and it is the one that was loaded first.

**Proof sketch.** Induction on the run, from its end. A load keeps what there is, and where there is
nothing none has been loaded; to clear the store ends all that has been loaded before; all else
leaves what is kept as it is. -/
theorem lookup_run (hs : s.cache = []) (steps : List Step) (place : Place) :
    (∀ d, (s.run steps).cache.lookup place = some d ↔ s.FirstLoaded steps place d) ∧
      ((s.run steps).cache.lookup place = none ↔ ∀ d, ¬ s.LoadedSince steps place d) := by
  induction steps using List.reverseRecOn with
  | nil =>
    have hnone : (s.run []).cache.lookup place = none := by
      show s.cache.lookup place = none
      rw [hs, List.lookup_nil]
    constructor
    · intro d
      rw [hnone]
      simp [FirstLoaded]
    · simp [hnone, LoadedSince]
  | append_singleton steps step ih =>
    obtain ⟨hfirst, hsince⟩ := ih
    simp only [run_concat, firstLoaded_concat, loadedSince_concat]
    by_cases hclear : step = .clear
    · subst hclear
      simp [after, clear]
    · by_cases hload : ∃ path, step = .load path
      · obtain ⟨path, rfl⟩ := hload
        have hlookup := lookup_load (s.run steps) path place
        have hnone : (load path (s.run steps)).1.cache.lookup place = none ↔
            ∀ d, ¬ (s.LoadedSince steps place d ∨ (s.run steps).LoadsAs path place d) := by
          rw [Option.eq_none_iff_forall_ne_some]
          simp only [ne_eq, hlookup, not_or, not_and, forall_and, ← hsince,
            ← Option.eq_none_iff_forall_ne_some]
          exact and_congr_right fun hnone => ⟨fun h d => h d hnone, fun h d _ => h d⟩
        constructor
        · intro d
          simp [after, hlookup, hfirst, hsince, and_comm]
        · simpa [after] using hnone
      · have hno : ∀ path, step ≠ .load path := fun path h => hload ⟨path, h⟩
        rw [cache_after hclear hno, hsince]
        simp [hclear, hno, hfirst]

/-- What a load of a path comes to if a text is read. -/
def outcomeOf (path text : String) : Except ReadError Value :=
  (documentOf text).mapError (unreadable (DocumentPath.ofText path).text)

/-- What is found at a place with a text while no document is kept for it. -/
lemma found_of_text {text : String} (htext : s.directory.text? place = some text)
    (hnone : s.cached? place = none) : s.found place = documentOf text := by
  rw [found, hnone, htext, Option.getD_some]

/-- A load that fails leaves the store as it is. -/
lemma store_of_load_error {path : String} {e : ReadError}
    (h : (load path s).2.outcome = .error e) : (load path s).1 = s := by
  unfold load at h ⊢
  dsimp only at h ⊢
  split
  next => rfl
  next place hplace =>
    rw [hplace] at h
    dsimp only at h ⊢
    split
    next => rfl
    next hnone =>
      rw [hnone] at h
      dsimp only at h
      split
      next hdocument =>
        rw [hdocument] at h
        cases h
      next => rfl

/-- **What a load comes to after a run.** A load of a path that leads to no text fails. A load of a
path that leads to a text comes to what the text is read as, unless documents are kept and one has
been loaded for the same place, while documents were kept, since the store was last cleared: then it
comes to the first of these. A load that fails leaves the store as it is. -/
theorem load_after_run (directory : Directory) (caching : Bool) (steps : List Step)
    (path : String) :
    let s₀ := ofDirectory directory caching
    let s := s₀.run steps
    (s.directory.locate? (.ofText path) = none → (load path s).2.outcome =
        .error (.definition (.documentNotFound (DocumentPath.ofText path).text))) ∧
      (∀ place text, s.directory.locate? (.ofText path) = some place →
        s.directory.text? place = some text →
          (s.caching = false → (load path s).2.outcome = outcomeOf path text) ∧
          (s.caching = true →
            (∀ d, s₀.FirstLoaded steps place d → (load path s).2.outcome = .ok d) ∧
            ((∀ d, ¬ s₀.FirstLoaded steps place d) →
              (∀ d, ¬ s₀.LoadedSince steps place d) ∧
                (load path s).2.outcome = outcomeOf path text))) ∧
      ∀ e, (load path s).2.outcome = .error e → (load path s).1 = s := by
  intro s₀ s
  refine ⟨fun hplace => ?_, fun place text hplace htext => ⟨fun hcaching => ?_, fun hcaching => ?_⟩,
    fun e => store_of_load_error⟩
  · rw [load_outcome, hplace]
  · have hnone : s.cached? place = none := by rw [cached?, hcaching, if_neg Bool.false_ne_true]
    rw [load_outcome, hplace]
    dsimp only
    rw [found_of_text htext hnone]
    rfl
  · obtain ⟨hfirst, hsince⟩ := lookup_run (s := s₀) rfl steps place
    have hcached : s.cached? place = s.cache.lookup place := by
      rw [cached?, hcaching, if_pos rfl]
    rw [load_outcome, hplace]
    dsimp only
    constructor
    · intro d hd
      rw [found, hcached, (hfirst d).2 hd]
      rfl
    · intro hno
      have hnone : s.cache.lookup place = none :=
        Option.eq_none_iff_forall_ne_some.2 fun d hd => hno d ((hfirst d).1 hd)
      refine ⟨hsince.1 hnone, ?_⟩
      rw [found_of_text htext (hcached.trans hnone)]
      rfl

/-- A text is written, loaded, and written anew. -/
def rewriting : List Step := [.write "d" "", .load "d", .write "d" "a"]

/-- The first document stays until the store is cleared or documents are no longer kept; once the
text is removed no load succeeds. -/
theorem load_after_rewriting :
    let s₀ := ofDirectory .empty true
    (load "d" (s₀.run rewriting)).2.outcome = .ok (.mapping []) ∧
      (load "d" (s₀.run (rewriting ++ [.clear]))).2.outcome = outcomeOf "d" "a" ∧
      (load "d" (s₀.run (rewriting ++ [.switch false]))).2.outcome = outcomeOf "d" "a" ∧
      (load "d" (s₀.run (rewriting ++ [.remove "d"]))).2.outcome =
        .error (.definition (.documentNotFound "d")) ∧
      (load "d" (s₀.run (rewriting ++ [.remove "d"]))).1 = s₀.run (rewriting ++ [.remove "d"]) := by
  intro s₀
  have hfirst : s₀.FirstLoaded rewriting ["d"] (.mapping []) := by
    refine ⟨[.write "d" ""], "d", [.write "d" "a"], rfl, by simp, ⟨rfl, by cbv, by cbv⟩, ?_⟩
    rintro d ⟨before, path, rest, hsteps, -⟩
    cases before <;> simp at hsteps
  have hcleared : ∀ d, ¬ s₀.FirstLoaded (rewriting ++ [.clear]) ["d"] d := by
    simp [firstLoaded_concat]
  have hd : (DocumentPath.ofText "d").text = "d" := by cbv
  have hkept := (load_after_run .empty true rewriting "d").2.1 ["d"] "a" (by cbv) (by cbv)
  have hclear :=
    (load_after_run .empty true (rewriting ++ [.clear]) "d").2.1 ["d"] "a" (by cbv) (by cbv)
  have hswitch :=
    (load_after_run .empty true (rewriting ++ [.switch false]) "d").2.1 ["d"] "a" (by cbv) (by cbv)
  obtain ⟨hremove, -, hsame⟩ := load_after_run .empty true (rewriting ++ [.remove "d"]) "d"
  have hmissing := hremove (by cbv)
  have hsame := hsame _ hmissing
  rw [hd] at hmissing
  exact ⟨(hkept.2 (by cbv)).1 _ hfirst, ((hclear.2 (by cbv)).2 hcleared).2, hswitch.1 (by cbv),
    hmissing, hsame⟩

end Store

end DataSchema
