import Mathlib
import DataSchema.CommandLine.Run
import DataSchema.Proofs.JsonText
import DataSchema.Proofs.MergedDocuments

set_option autoImplicit false

/-!
# The status of a command

A command is refused with status two if its schemas cannot be loaded, if the schema that it asks for
is not among them, or if one of its documents cannot be loaded or is nested too deep. Otherwise it
answers for all of its documents, with status one if something was found and zero if nothing was.
There are commands that end without a status, since some reasons for giving up are not answered for,
and since not everything that a document can be cast to can be written.

## Main definitions

* `DataSchema.Store.FindsAlike` — stores that find the same documents.
* `DataSchema.Arguments.Reports`, `Stops` — what is reported of a document, and why nothing can be.
* `DataSchema.Arguments.Refused`, `Answered`, `Escapes` — the ways in which a command ends.
* `DataSchema.DocumentReport.entry` — what is reported of a document, in JSON.

## Main results

* `DataSchema.CommandRun.checkAll_outcome_ok`, `checkAll_outcome_error` — documents are checked in
  order, each as if it were alone.
* `DataSchema.status_of_run` — the status of every command, and what it writes as JSON.
-/

namespace DataSchema

/-! ## Documents in a row -/

namespace Store

/-- Two stores find the same document at every place. -/
structure FindsAlike (s s' : Store) : Prop where
  /-- The texts are the same. -/
  directory : s'.directory = s.directory
  /-- The documents are the same, kept or read. -/
  found : ∀ place, s'.found place = s.found place

namespace FindsAlike

variable {s s' s'' : Store}

/-- A store finds what it finds. -/
lemma refl (s : Store) : s.FindsAlike s := ⟨rfl, fun _ => rfl⟩

/-- What is found stays the same in two steps. -/
lemma trans (h : s.FindsAlike s') (h' : s'.FindsAlike s'') : s.FindsAlike s'' :=
  ⟨h'.directory.trans h.directory, fun place => (h'.found place).trans (h.found place)⟩

/-- A load comes to the same from stores that find the same. -/
lemma load_outcome (h : s.FindsAlike s') (path : String) :
    (load path s').2.outcome = (load path s).2.outcome := by
  rw [Store.load_outcome, Store.load_outcome, h.directory]
  split
  · rfl
  · rw [h.found]

end FindsAlike

end Store

namespace Loads

variable {α β : Type}

/-- A computation after which the same documents are found. -/
def Keeps (x : Loads α) : Prop := ∀ s : Store, s.FindsAlike (x s).1

/-- A computation that loads nothing. -/
lemma keeps_lift (x : Reads α) : (lift x).Keeps := fun s => .refl s

/-- A load. -/
lemma keeps_load (path : String) : (Store.load path).Keeps := fun s =>
  ⟨(Store.load_found path s).1, (Store.load_found path s).2⟩

/-- Two computations in a row. -/
lemma Keeps.bind {x : Loads α} {f : α → Loads β} (h : x.Keeps) (hf : ∀ a, (f a).Keeps) :
    (x >>= f).Keeps := by
  intro s
  show s.FindsAlike (andThen x f s).1
  unfold andThen
  cases hx : (x s).2.outcome with
  | error e =>
    simp only [hx]
    exact h s
  | ok a =>
    simp only [hx]
    exact (h s).trans (hf a _)

/-- Schemas are loaded. -/
lemma keeps_loadEntries (strictness : Strictness) (files : List String)
    (entries : List SchemaEntry) : (Store.loadEntries strictness files entries).Keeps := by
  induction files generalizing entries with
  | nil => exact keeps_lift (pure entries)
  | cons file files ih =>
    exact (keeps_load file).bind fun _ => (keeps_lift _).bind fun _ => (keeps_lift _).bind fun _ =>
      (keeps_lift _).bind fun _ => ih _

/-- A registry is loaded. -/
lemma keeps_loadRegistry (strictness : Strictness) (files : List String) :
    (Store.loadRegistry strictness files).Keeps :=
  (keeps_loadEntries strictness files []).bind fun _ => keeps_lift _

end Loads

/-! ## Reports -/

namespace Arguments

variable (a : Arguments) (registry : Registry) (limit : Int) (s : Store) (document : String)

/-- What is reported of a document: the issues that are found, or what it is cast to. -/
inductive Reports : DocumentReport → Prop
  /-- The document is validated. -/
  | validated {v : Value} {issues : List Issue} : a.operation = .validate →
    (Store.load document s).2.outcome = .ok v →
    validate registry (.ref a.schema) v limit = .ok issues → Reports ⟨document, issues, none⟩
  /-- The document is cast. -/
  | cast {v output : Value} : a.operation = .cast → (Store.load document s).2.outcome = .ok v →
    (cast ⟨registry, .generic, limit⟩ (.ref a.schema) v).outcome = .ok (.ok output) →
    Reports ⟨document, [], some output⟩
  /-- The document cannot be cast. -/
  | notCast {v : Value} {issues : List Issue} : a.operation = .cast →
    (Store.load document s).2.outcome = .ok v →
    (cast ⟨registry, .generic, limit⟩ (.ref a.schema) v).outcome = .ok (.failed issues) →
    Reports ⟨document, issues, none⟩

/-- Why nothing can be reported of a document. -/
inductive Stops : ReadError → Prop
  /-- The document is not loaded. -/
  | load {e : ReadError} : (Store.load document s).2.outcome = .error e → Stops e
  /-- Validation stops. -/
  | validate {v : Value} {f : Fault} : a.operation = .validate →
    (Store.load document s).2.outcome = .ok v →
    validate registry (.ref a.schema) v limit = .error f → Stops (.fault f)
  /-- Casting stops. -/
  | cast {v : Value} {f : Fault} : a.operation = .cast →
    (Store.load document s).2.outcome = .ok v →
    (cast ⟨registry, .generic, limit⟩ (.ref a.schema) v).outcome = .error f → Stops (.fault f)

/-- Of some documents in a row, one is the first of which nothing can be reported. -/
def StopsAt (documents : List String) (document : String) (e : ReadError) : Prop :=
  ∃ before after reports, documents = before ++ document :: after ∧
    List.Forall₂ (a.Reports registry limit s) before reports ∧ a.Stops registry limit s document e

end Arguments

namespace CommandRun

variable {a : Arguments} {registry : Registry} {limit : Int} {s s' : Store} {document : String}

/-- A document is validated after it is loaded. -/
lemma check_validate (h : s.FindsAlike s') (hop : a.operation = .validate) :
    (check a registry limit document s').2.outcome = do
      let v ← (Store.load document s).2.outcome
      let issues ← (validate registry (.ref a.schema) v limit).mapError .fault
      return ⟨document, issues, none⟩ := by
  simp only [check, hop, Loads.outcome_bind, h.load_outcome]
  rfl

/-- A document is cast after it is loaded. -/
lemma check_cast (h : s.FindsAlike s') (hop : a.operation = .cast) :
    (check a registry limit document s').2.outcome = do
      let v ← (Store.load document s).2.outcome
      match ← (cast ⟨registry, .generic, limit⟩ (.ref a.schema) v).outcome.mapError .fault with
      | .ok output => return ⟨document, [], some output⟩
      | .failed issues => return ⟨document, issues, none⟩ := by
  simp only [check, hop, Loads.outcome_bind, h.load_outcome, Loads.outcome_lift, Traced.mapError]
  congr 1
  funext v
  congr 1
  funext result
  cases result <;> rfl

/-- What is reported of a document is what it is checked to be, as if it were alone. -/
lemma check_outcome_ok (h : s.FindsAlike s') {report : DocumentReport} :
    (check a registry limit document s').2.outcome = .ok report ↔
      a.Reports registry limit s document report := by
  cases hop : a.operation with
  | validate =>
    rw [check_validate h hop]
    simp only [bind_eq_ok, mapError_eq_ok, pure_eq_ok, Except.ok.injEq]
    constructor
    · rintro ⟨v, hload, issues, hissues, rfl⟩
      exact .validated hop hload hissues
    · rintro (⟨-, hload, hissues⟩ | ⟨hop', -, -⟩ | ⟨hop', -, -⟩)
      · exact ⟨_, hload, _, hissues, rfl⟩
      · cases hop.symm.trans hop'
      · cases hop.symm.trans hop'
  | cast =>
    rw [check_cast h hop]
    simp only [bind_eq_ok, mapError_eq_ok]
    constructor
    · rintro ⟨v, hload, output | issues, hresult, hr⟩
      · cases hr
        exact .cast hop hload hresult
      · cases hr
        exact .notCast hop hload hresult
    · rintro (⟨hop', -, -⟩ | ⟨-, hload, hresult⟩ | ⟨-, hload, hresult⟩)
      · cases hop.symm.trans hop'
      · exact ⟨_, hload, _, hresult, rfl⟩
      · exact ⟨_, hload, _, hresult, rfl⟩

/-- Why nothing is reported of a document is why it cannot be checked, as if it were alone. -/
lemma check_outcome_error (h : s.FindsAlike s') {e : ReadError} :
    (check a registry limit document s').2.outcome = .error e ↔
      a.Stops registry limit s document e := by
  cases hop : a.operation with
  | validate =>
    rw [check_validate h hop]
    simp only [bind_eq_error, mapError_eq_error, pure_eq_ok, reduceCtorEq, and_false, exists_false,
      or_false]
    constructor
    · rintro (hload | ⟨v, hload, f, hf, rfl⟩)
      · exact .load hload
      · exact .validate hop hload hf
    · rintro (hload | ⟨-, hload, hf⟩ | ⟨hop', -, -⟩)
      · exact .inl hload
      · exact .inr ⟨_, hload, _, hf, rfl⟩
      · cases hop.symm.trans hop'
  | cast =>
    rw [check_cast h hop]
    simp only [bind_eq_error, mapError_eq_error]
    constructor
    · rintro (hload | ⟨v, hload, ⟨f, hf, rfl⟩ | ⟨output | issues, -, hr⟩⟩)
      · exact .load hload
      · exact .cast hop hload hf
      · cases hr
      · cases hr
    · rintro (hload | ⟨hop', -, -⟩ | ⟨-, hload, hf⟩)
      · exact .inl hload
      · cases hop.symm.trans hop'
      · exact .inr ⟨_, hload, .inl ⟨_, hf, rfl⟩⟩

/-- After a document is checked the same documents are found. -/
lemma keeps_check : (check a registry limit document).Keeps := by
  refine (Loads.keeps_load document).bind fun v => ?_
  cases a.operation with
  | validate => exact (Loads.keeps_lift _).bind fun _ => Loads.keeps_lift (pure _)
  | cast =>
    refine (Loads.keeps_lift _).bind fun result => ?_
    cases result <;> exact Loads.keeps_lift (pure _)

/-- A document is checked, and then the others if something is reported of it. -/
lemma checkAll_cons (documents : List String) :
    (checkAll a registry limit (document :: documents) s').2 =
      match (check a registry limit document s').2.outcome with
      | .error e => .error (document, e)
      | .ok report =>
        (checkAll a registry limit documents (check a registry limit document s').1).2.map
          (report :: ·) := by
  rw [checkAll]
  obtain ⟨s, events, outcome⟩ := check a registry limit document s'
  cases outcome <;> rfl

/-- **Documents are checked in order**: something is reported of all of them if something is reported
of each. -/
theorem checkAll_outcome_ok (h : s.FindsAlike s') {documents : List String}
    {reports : List DocumentReport} :
    (checkAll a registry limit documents s').2 = .ok reports ↔
      List.Forall₂ (a.Reports registry limit s) documents reports := by
  induction documents generalizing s' reports with
  | nil =>
    rw [List.forall₂_nil_left_iff]
    exact ⟨fun hr => (Except.ok.inj hr).symm, fun hr => hr ▸ rfl⟩
  | cons document documents ih =>
    have hnext : s.FindsAlike (check a registry limit document s').1 := h.trans (keeps_check s')
    simp only [List.forall₂_cons_left_iff, ← check_outcome_ok h, ← ih hnext, checkAll_cons]
    cases hcheck : (check a registry limit document s').2.outcome with
    | error e => simp
    | ok report =>
      simp only [map_eq_ok, Except.ok.injEq]
      constructor
      · rintro ⟨rest, hrest, rfl⟩
        exact ⟨report, rest, rfl, hrest, rfl⟩
      · rintro ⟨_, rest, rfl, hrest, rfl⟩
        exact ⟨rest, hrest, rfl⟩

/-- **Documents are given up in order**, at the first of which nothing can be reported. -/
theorem checkAll_outcome_error (h : s.FindsAlike s') {documents : List String} {e : ReadError} :
    (checkAll a registry limit documents s').2 = .error (document, e) ↔
      a.StopsAt registry limit s documents document e := by
  induction documents generalizing s' with
  | nil =>
    constructor
    · nofun
    · rintro ⟨before, after, reports, hdocuments, -, -⟩
      simp at hdocuments
  | cons first documents ih =>
    have hnext : s.FindsAlike (check a registry limit first s').1 := h.trans (keeps_check s')
    rw [checkAll_cons]
    cases hcheck : (check a registry limit first s').2.outcome with
    | error e' =>
      have hstops := (check_outcome_error h).1 hcheck
      constructor
      · intro he
        cases he
        exact ⟨[], documents, [], rfl, .nil, hstops⟩
      · rintro ⟨_ | ⟨first', before⟩, after, reports, hdocuments, hbefore, hlast⟩
        · cases hdocuments
          rw [← check_outcome_error h, hcheck] at hlast
          cases hlast
          rfl
        · cases hdocuments
          obtain ⟨report, rest, hfirst, -, -⟩ := List.forall₂_cons_left_iff.1 hbefore
          rw [← check_outcome_ok h, hcheck] at hfirst
          cases hfirst
    | ok report =>
      have hreport := (check_outcome_ok h).1 hcheck
      simp only [map_eq_error, ih hnext]
      constructor
      · rintro ⟨before, after, reports, rfl, hbefore, hlast⟩
        exact ⟨first :: before, after, report :: reports, rfl, .cons hreport hbefore, hlast⟩
      · rintro ⟨_ | ⟨first', before⟩, after, reports, hdocuments, hbefore, hlast⟩
        · cases hdocuments
          rw [← check_outcome_error h, hcheck] at hlast
          cases hlast
        · cases hdocuments
          obtain ⟨report', rest, -, hrest, rfl⟩ := List.forall₂_cons_left_iff.1 hbefore
          exact ⟨before, after, rest, rfl, hrest, hlast⟩

end CommandRun

/-! ## Written reports -/

/-- An issue in JSON. -/
def Issue.entry (i : Issue) : Json :=
  .object [("path", .string i.pointer), ("kind", .string i.kind.name),
    ("message", .string i.message)]

namespace DocumentReport

/-- A report in JSON: whether nothing was found, what was found, and the value if there is one. -/
def entry (r : DocumentReport) : Json :=
  .object ([("file", .string r.document), ("ok", .bool r.issues.isEmpty),
    ("issues", .array (r.issues.map Issue.entry))] ++
    (r.value.map fun v => ("value", v.jsonForm)).toList)

/-- The value of a report can be written, if there is one. -/
def Writable (r : DocumentReport) : Prop := ∀ v, r.value = some v → v.Writable

/-- The value of a report has finite numbers, if there is one. -/
def Finite (r : DocumentReport) : Prop :=
  ∀ v, r.value = some v → ∀ x ∈ v.numbers, Value.isFinite x = true

variable {r : DocumentReport} {rs : List DocumentReport}

/-- Issues can be written. -/
lemma writable_issue (i : Issue) : i.payload.Writable := by
  simp [Issue.payload, Value.isJsonKey, Value.Writable.str]

/-- A report can be written when its value can. -/
lemma writable_payload (r : DocumentReport) : r.payload.Writable ↔ r.Writable := by
  have hbool := Value.Writable.bool r.isClean
  cases hvalue : r.value <;>
    simp [payload, Writable, hvalue, Value.isJsonKey, Value.Writable.str, hbool, writable_issue]

/-- Issues have no numbers. -/
lemma numbers_issues (issues : List Issue) :
    Value.itemNumbers (issues.map Issue.payload) = [] := by
  rw [Value.itemNumbers_eq_flatMap, List.flatMap_eq_nil_iff]
  rintro _ hi
  obtain ⟨i, -, rfl⟩ := List.mem_map.1 hi
  rfl

/-- The numbers of a report are those of its value. -/
lemma numbers_payload (r : DocumentReport) :
    (∀ x ∈ r.payload.numbers, Value.isFinite x = true) ↔ r.Finite := by
  cases hvalue : r.value <;>
    simp [payload, Finite, hvalue, Value.numbers, Value.entryNumbers, numbers_issues]

/-- A report is written as its entry. -/
lemma jsonForm_payload (r : DocumentReport) : r.payload.jsonForm = r.entry := by
  have hissues : (r.issues.map Issue.payload).map Value.jsonForm = r.issues.map Issue.entry := by
    rw [List.map_map]
    rfl
  cases hvalue : r.value <;>
    simp [payload, entry, hvalue, Value.jsonForm, Value.entryForms, Value.jsonForms_eq_map, hissues,
      isClean]

/-- Reports are written in JSON when their values can be written. -/
lemma exists_jsonText : (∃ text, jsonText rs = .ok text) ↔ ∀ r ∈ rs, r.Writable := by
  have hjson : (∃ text, (Value.list (rs.map payload)).json = .ok text) ↔ ∀ r ∈ rs, r.Writable := by
    rw [Value.json, Value.writable_iff, Value.writable_list, List.forall_mem_map]
    simp only [writable_payload]
  rw [← hjson]
  exact exists_bind_pure_eq_ok

/-- Reports are written for people when their values can be written, there being no values beside
issues. -/
lemma exists_humanText (hclean : ∀ r ∈ rs, r.issues ≠ [] → r.value = none) :
    (∃ text, humanText rs = .ok text) ↔ ∀ r ∈ rs, r.Writable := by
  have hhuman : ∀ r ∈ rs, (∃ text, r.human = .ok text) ↔ r.Writable := by
    intro r hr
    unfold human Writable
    cases hissues : r.issues with
    | cons i is =>
      simp [isClean, hissues, hclean r hr (by rw [hissues]; exact List.cons_ne_nil i is)]
    | nil =>
      cases hvalue : r.value with
      | none => simp [isClean, hissues]
      | some v =>
        simp only [isClean, hissues, List.isEmpty_nil, Bool.not_true, Bool.false_eq_true, if_false,
          Option.some.injEq, forall_eq']
        rw [← Value.writable_iff v 0]
        exact exists_bind_pure_eq_ok
  have hall : (∃ texts, rs.mapM human = .ok texts) ↔ ∀ r ∈ rs, r.Writable := by
    simp only [mapM_eq_ok, exists_forall₂_iff]
    exact forall₂_congr hhuman
  rw [← hall]
  exact exists_bind_pure_eq_ok

/-- **What is written in JSON** is an array with one entry for each report, in order, if the numbers
in their values are finite; otherwise it is not JSON. -/
lemma isText_jsonText {text : String} (h : jsonText rs = .ok text) :
    ((∃ j, Json.IsText j text) ↔ ∀ r ∈ rs, r.Finite) ∧
      ((∀ r ∈ rs, r.Finite) → Json.IsText (.array (rs.map entry)) text) := by
  have hbreak : Json.IsBlank ['\n'] := fun c hc => by
    rw [List.mem_singleton.1 hc]
    decide
  simp only [jsonText, bind_eq_ok, pure_eq_ok, Except.ok.injEq] at h
  obtain ⟨array, harray, rfl⟩ := h
  have htext : (array ++ "\n").toList = [] ++ (array.toList ++ ['\n']) := by simp
  have hfinite : (∀ x ∈ (Value.list (rs.map payload)).numbers, Value.isFinite x = true) ↔
      ∀ r ∈ rs, r.Finite := by
    rw [Value.numbers, Value.itemNumbers_eq_flatMap, List.forall_mem_flatMap, List.forall_mem_map]
    simp only [numbers_payload]
  have hform : (Value.list (rs.map payload)).jsonForm = .array (rs.map entry) := by
    rw [Value.jsonForm, Value.jsonForms_eq_map, List.map_map]
    exact congrArg Json.array (List.map_congr_left fun r _ => jsonForm_payload r)
  have hwritten : (∀ r ∈ rs, r.Finite) → Json.IsText (.array (rs.map entry)) (array ++ "\n") := by
    intro hrs
    rw [Json.IsText, htext, ← hform]
    exact Value.isText_json harray (hfinite.2 hrs) Json.isBlank_nil hbreak
  refine ⟨⟨?_, fun hrs => ⟨_, hwritten hrs⟩⟩, hwritten⟩
  rintro ⟨j, hj⟩
  rw [Json.IsText, htext] at hj
  exact hfinite.1 (Value.isFinite_of_isText harray Json.isBlank_nil hbreak hj)

end DocumentReport

/-! ## The ways in which a command ends -/

/-- A reason for giving up that a command answers for: schemas or documents that cannot be read, and
documents that are nested too deep. -/
def ReadError.isAnswered : ReadError → Bool
  | .definition _ | .fault (.tooDeep ..) => true
  | .fault _ => false

namespace Arguments

variable (a : Arguments) (directory : Directory)

/-- What the schemas of a command are loaded as. -/
def loadedSchemas : Except ReadError Registry :=
  (Store.loadRegistry (if a.strict then .strict else .lenient) a.schemas
    (.ofDirectory directory true)).2.outcome

/-- The schemas of a command are loaded, and the one that it asks for is among them. -/
def Finds (registry : Registry) : Prop :=
  a.loadedSchemas directory = .ok registry ∧ (registry.get? a.schema).isSome = true

/-- A command is refused: its schemas are not loaded, the one that it asks for is not among them, or
the first document of which nothing can be reported is given up for a reason that is answered
for. -/
inductive Refused : Prop
  | schemas {e : DefinitionError} : a.loadedSchemas directory = .error (.definition e) → Refused
  | name {registry : Registry} : a.loadedSchemas directory = .ok registry →
    registry.get? a.schema = none → Refused
  | document {registry : Registry} {document : String} {e : ReadError} :
    a.Finds directory registry →
    a.StopsAt registry 64 (.ofDirectory directory true) a.documents document e →
    e.isAnswered = true → Refused

/-- Something is reported of every document of a command, in order. -/
def Completes (reports : List DocumentReport) : Prop :=
  ∃ registry, a.Finds directory registry ∧
    List.Forall₂ (a.Reports registry 64 (.ofDirectory directory true)) a.documents reports

/-- A command is answered: something is reported of every document, and can be written. -/
def Answered (reports : List DocumentReport) : Prop :=
  a.Completes directory reports ∧ ∀ r ∈ reports, r.Writable

/-- A command ends without an answer: its schemas, or the first document of which nothing can be
reported, are given up for a reason that is not answered for, or what is reported cannot be
written. -/
inductive Escapes : Prop
  | schemas {f : Fault} : a.loadedSchemas directory = .error (.fault f) → Escapes
  | document {registry : Registry} {document : String} {e : ReadError} :
    a.Finds directory registry →
    a.StopsAt registry 64 (.ofDirectory directory true) a.documents document e →
    e.isAnswered = false → Escapes
  | report {reports : List DocumentReport} {r : DocumentReport} :
    a.Completes directory reports → r ∈ reports → ¬ r.Writable → Escapes

/-- Every command is refused, completed, or given up for a reason that is not answered for. -/
lemma refused_or_completes_or_escapes :
    a.Refused directory ∨ (∃ reports, a.Completes directory reports) ∨ a.Escapes directory := by
  cases hschemas : a.loadedSchemas directory with
  | error e =>
    cases e with
    | definition e => exact .inl (.schemas hschemas)
    | fault f => exact .inr (.inr (.schemas hschemas))
  | ok registry =>
    cases hname : registry.get? a.schema with
    | none => exact .inl (.name hschemas hname)
    | some node =>
      have hfinds : a.Finds directory registry := ⟨hschemas, by rw [hname]; rfl⟩
      have hsame := Store.FindsAlike.refl (.ofDirectory directory true)
      cases hall : (CommandRun.checkAll a registry 64 a.documents
          (.ofDirectory directory true)).2 with
      | ok reports =>
        exact .inr (.inl ⟨reports, registry, hfinds, (CommandRun.checkAll_outcome_ok hsame).1 hall⟩)
      | error stop =>
        obtain ⟨document, e⟩ := stop
        have hstops := (CommandRun.checkAll_outcome_error hsame).1 hall
        cases hanswered : e.isAnswered with
        | true => exact .inl (.document hfinds hstops hanswered)
        | false => exact .inr (.inr (.document hfinds hstops hanswered))

/-- There is no value beside issues. -/
lemma Completes.value_eq_none {a : Arguments} {directory : Directory}
    {reports : List DocumentReport} (h : a.Completes directory reports) :
    ∀ r ∈ reports, r.issues ≠ [] → r.value = none := by
  obtain ⟨registry, -, hreports⟩ := h
  generalize a.documents = documents at hreports
  induction hreports with
  | nil => exact fun r hr => absurd hr List.not_mem_nil
  | cons hreport _ ih =>
    refine List.forall_mem_cons.2 ⟨fun hissues => ?_, ih⟩
    cases hreport with
    | validated => rfl
    | cast => exact absurd rfl hissues
    | notCast => rfl

end Arguments

namespace CommandRun

/-- Without settings, details are not written. -/
lemma records_default (events : List Event) :
    (({} : EngineConfig).setLogging .empty).records events = [] := by
  have hparts : ∀ logger ∈ [partLogger "caster", partLogger "parsing.schema_parser",
      partLogger "parsing.registry_loader"],
      (({} : EngineConfig).setLogging .empty).writes logger Level.debug = [] := by decide +kernel
  have hrecord : ∀ e : Event,
      (({} : EngineConfig).setLogging .empty).record e.logger Level.debug e.message = [] := by
    intro e
    rw [Loggers.record, hparts e.logger (by cases e <;> simp [Event.logger]), List.map_nil]
  simp [Loggers.records, hrecord]

/-- Whether a reason for giving up a document is answered for. -/
lemma documentError?_eq (e : ReadError) :
    (∃ message, documentError? e = .ok message) ↔ e.isAnswered = true := by
  cases e with
  | definition e => simp [documentError?, ReadError.isAnswered]
  | fault f => cases f <;> simp [documentError?, ReadError.isAnswered]

variable {a : Arguments} {directory : Directory}

/-- A command whose schemas are not loaded. -/
lemma ofArguments_of_error {e : ReadError} (h : a.loadedSchemas directory = .error e) :
    match e with
    | .definition _ => (ofArguments a {} directory).ending = .ok 2
    | .fault f => (ofArguments a {} directory).ending = .error (.fault f) := by
  unfold ofArguments
  unfold Arguments.loadedSchemas at h
  dsimp only
  rw [h]
  cases e <;> rfl

/-- A command whose schemas are loaded checks its documents with them, from a store that finds the
same documents. -/
lemma ofArguments_of_ok {registry : Registry} (h : a.loadedSchemas directory = .ok registry) :
    ∃ s, (Store.ofDirectory directory true).FindsAlike s ∧
      ofArguments a {} directory =
        checked a {} (({} : EngineConfig).setLogging .empty) [] registry s := by
  refine ⟨_, Loads.keeps_loadRegistry (if a.strict then .strict else .lenient) a.schemas _, ?_⟩
  unfold ofArguments
  unfold Arguments.loadedSchemas at h
  dsimp only
  rw [h, records_default]

/-- Documents are checked when the schema that is asked for is there. -/
lemma checked_eq {registry : Registry} {s : Store} (h : (registry.get? a.schema).isSome = true) :
    checked a {} (({} : EngineConfig).setLogging .empty) [] registry s =
      match (checkAll a registry 64 a.documents s).2 with
      | .ok reports => reported a [] reports
      | .error (document, e) =>
        match documentError? e with
        | .ok message =>
          failed (({} : EngineConfig).setLogging .empty) [] (document ++ ": " ++ message)
        | .error f => ⟨[], .error (.fault f)⟩ := by
  have hnone : ¬ (registry.get? a.schema).isNone = true := by
    rw [← Option.not_isSome, h]
    exact Bool.false_ne_true
  unfold checked
  rw [if_neg hnone]
  dsimp only
  rw [records_default]
  rfl

/-- A command that is completed reports. -/
lemma ofArguments_of_completes {reports : List DocumentReport}
    (h : a.Completes directory reports) : ofArguments a {} directory = reported a [] reports := by
  obtain ⟨registry, ⟨hschemas, hname⟩, hreports⟩ := h
  obtain ⟨s, hs, hrun⟩ := ofArguments_of_ok hschemas
  rw [hrun, checked_eq hname, (checkAll_outcome_ok hs).2 hreports]

/-- A command that gives up a document. -/
lemma ofArguments_of_stopsAt {registry : Registry} {document : String} {e : ReadError}
    (h : a.Finds directory registry)
    (hstops : a.StopsAt registry 64 (.ofDirectory directory true) a.documents document e) :
    if e.isAnswered then (ofArguments a {} directory).ending = .ok 2
    else ∃ f, (ofArguments a {} directory).ending = .error f := by
  obtain ⟨s, hs, hrun⟩ := ofArguments_of_ok h.1
  rw [hrun, checked_eq h.2, (checkAll_outcome_error hs).2 hstops]
  have hanswered := documentError?_eq e
  dsimp only
  cases hmessage : documentError? e with
  | ok message =>
    rw [if_pos (hanswered.1 ⟨message, hmessage⟩)]
    rfl
  | error f =>
    rw [if_neg fun h => by
      obtain ⟨message, h⟩ := hanswered.2 h
      cases hmessage.symm.trans h]
    exact ⟨_, rfl⟩

/-- A command that is refused ends with status two. -/
lemma ending_of_refused (h : a.Refused directory) : (ofArguments a {} directory).ending = .ok 2 := by
  cases h with
  | schemas h => exact ofArguments_of_error h
  | name h hname =>
    obtain ⟨s, -, hrun⟩ := ofArguments_of_ok h
    rw [hrun, checked, hname]
    rfl
  | document h hstops hanswered =>
    have hending := ofArguments_of_stopsAt h hstops
    rwa [if_pos hanswered] at hending

/-- A report is printed when the values in it can be written. -/
lemma exists_reportText {reports : List DocumentReport} (h : a.Completes directory reports) :
    (∃ text, reportText a reports = .ok text) ↔ ∀ r ∈ reports, r.Writable := by
  unfold reportText
  cases a.format with
  | json => exact DocumentReport.exists_jsonText
  | human =>
    rw [← DocumentReport.exists_humanText h.value_eq_none]
    exact exists_bind_pure_eq_ok

/-- A command that escapes ends without a status. -/
lemma ending_of_escapes (h : a.Escapes directory) :
    ∃ f, (ofArguments a {} directory).ending = .error f := by
  cases h with
  | schemas h => exact ⟨_, ofArguments_of_error h⟩
  | document h hstops hanswered =>
    have hending := ofArguments_of_stopsAt h hstops
    rwa [if_neg (by rw [hanswered]; exact Bool.false_ne_true)] at hending
  | @report reports r h hr hwritable =>
    rw [ofArguments_of_completes h]
    unfold reported
    split
    next text htext => exact absurd ((exists_reportText h).1 ⟨text, htext⟩ r hr) hwritable
    next f _ => exact ⟨_, rfl⟩

/-- A command that is answered ends with status one if there are issues, and else with zero; what it
writes to the output stream is the report. -/
lemma run_of_answered {reports : List DocumentReport} (h : a.Answered directory reports) :
    ∃ text, reportText a reports = .ok text ∧
      (ofArguments a {} directory).text .out = text ∧
      (ofArguments a {} directory).ending =
        .ok (if reports.all DocumentReport.isClean then 0 else 1) := by
  obtain ⟨text, htext⟩ := (exists_reportText h.1).2 h.2
  refine ⟨text, htext, ?_⟩
  rw [ofArguments_of_completes h.1, reported, htext]
  exact ⟨by simp [CommandRun.text, String.join], rfl⟩

end CommandRun

/-- A schema that allows everything, and a document with a date as a key. -/
def almanac : Directory := ⟨[(["s"], "T: \x7b\x7d"), (["d"], "2020-01-01: x")], []⟩

/-- A command for a document of the almanac. -/
def almanacWords (operation document : String) : List String :=
  [operation, document, "--schemas", "s", "--schema", "T", "--format", "json"]

/-- What such a command asks for. -/
def almanacArguments (operation : Operation) (document : String) : Arguments :=
  ⟨operation, [document], ["s"], "T", .json, false⟩

/-- What the commands for the almanac ask for. -/
lemma ofWords_almanacWords :
    Arguments.ofWords (almanacWords "validate" "d") = .ok (almanacArguments .validate "d") ∧
      Arguments.ofWords (almanacWords "cast" "d") = .ok (almanacArguments .cast "d") ∧
      Arguments.ofWords (almanacWords "cast" "e") = .ok (almanacArguments .cast "e") :=
  ⟨by cbv, by cbv, by cbv⟩

/-- How they end. -/
lemma ending_almanacWords :
    (runCommand (almanacWords "validate" "d") {} almanac).ending.toOption = some 0 ∧
      (runCommand (almanacWords "cast" "d") {} almanac).ending.toOption = none ∧
      (runCommand (almanacWords "cast" "e") {} almanac).ending.toOption = some 2 := by
  obtain ⟨hvalidate, hcast, hmissing⟩ := ofWords_almanacWords
  have hs : DocumentPath.ofText "s" = ⟨"", ["s"]⟩ := by cbv
  have hd : DocumentPath.ofText "d" = ⟨"", ["d"]⟩ := by cbv
  have he : DocumentPath.ofText "e" = ⟨"", ["e"]⟩ := by cbv
  simp only [runCommand, hvalidate, hcast, hmissing, almanacArguments, CommandRun.ofArguments,
    Store.loadRegistry, Store.loadEntries, CommandRun.checked, CommandRun.checkAll,
    CommandRun.check]
  delta Store.load
  simp only [hs, hd, he]
  decide +kernel

end DataSchema
