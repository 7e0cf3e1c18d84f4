import DataSchema.Proofs.CastFailures
import DataSchema.Proofs.CastSteps
import DataSchema.Proofs.IssueKinds

set_option autoImplicit false

/-!
# Locations of issues

The locations that issues give are real. An issue that a check finds names a place in the value that
is checked: token by token its path leads to a value there. A cast that fails does so with an issue
at least, and all of them lie where the value stands or below; so a result without issues is the
value that the cast has made.

## Main definitions

* `DataSchema.Value.LeadsTo` — paths that lead from a value to one of the values in it.
* `DataSchema.Issue.IsAbout` — issues about a value at some location, or about a value in it.
* `DataSchema.Casting.FailsBelow` — casts that fail, if at all, with issues at some location or
  below.
* `DataSchema.Casting.IsBelow` — the failures of such casts.

## Main results

* `DataSchema.Validation.checkNode_located` — issues of checks, at every depth.
* `DataSchema.Casting.castSchema_failsBelow`, `DataSchema.Casting.castNode_failsBelow` — failures of
  casts by schemas and by nodes, at every depth.
* `DataSchema.issues_located` — issues of checks and casts of whole values.
-/

namespace DataSchema

/-! ## Paths into values -/

namespace Value

/-- A path leads from a value to one of the values in it, token by token. -/
inductive LeadsTo : Value → Path → Value → Prop
  /-- The empty path leads nowhere else. -/
  | here (v : Value) : LeadsTo v [] v
  /-- The first token leads to a part, and the others lead on from there. -/
  | step {v w u token : Value} {path : Path} :
    v.HasPartAt token w → LeadsTo w path u → LeadsTo v (token :: path) u

end Value

/-- An issue is about a value that stands at a location, or about a value in it. -/
def Issue.IsAbout (v : Value) (path : Path) (i : Issue) : Prop :=
  ∃ rest u, i.path = path ++ rest ∧ v.LeadsTo rest u

namespace Issue.IsAbout

variable {v w token : Value} {path : Path} {i : Issue}

/-- An issue at the location of a value is about the value. -/
lemma here (v : Value) (kind : IssueKind) (message : String) (path : Path) :
    IsAbout v path ⟨kind, message, path⟩ :=
  ⟨[], v, (List.append_nil path).symm, .here v⟩

/-- An issue about a part is about a value in the whole. -/
lemma of_part (hpart : v.HasPartAt token w) (h : IsAbout w (path ++ [token]) i) :
    IsAbout v path i := by
  obtain ⟨rest, u, hi, hu⟩ := h
  exact ⟨token :: rest, u, by rw [hi, List.append_assoc, List.singleton_append], .step hpart hu⟩

/-- An issue about a value stands where the value does, or below. -/
lemma isPrefix (h : IsAbout v path i) : path <+: i.path := by
  obtain ⟨rest, -, hi, -⟩ := h
  exact ⟨rest, hi.symm⟩

end Issue.IsAbout

/-! ## Checks -/

namespace Validation

/-- **Issues of a check are about the value or what is in it**, at every depth.

**Proof sketch.** Induction on the depth. An issue of a schema is about the value itself, or about a
property that must not be there, which is a part; or it is an issue of a part or of a member. -/
theorem checkNode_located (registry : Registry) (limit : Int) (depth : Nat) (node : Node)
    (v : Value) (path : Path) :
    Finds (Issue.IsAbout v path) (checkNode registry limit depth node v path) := by
  induction depth, node using registry.node_induction generalizing v path with
  | zero node => exact .error _
  | unknown depth name hget =>
    rw [checkNode_unknown hget]
    exact .ok (List.forall_mem_singleton.2 (.here v _ _ path))
  | named depth name s hget ih =>
    rw [checkNode_named hget]
    exact ih v path
  | link depth name other hget ih =>
    rw [checkNode_link hget]
    exact ih v path
  | schema depth s ih =>
    refine checkSchema_finds (fun kind message _ => .here v kind message path) ?_ ?_ ?_ ?_
    · intro _ message
      exact .here v _ message path
    · -- a property that must not be there is a part all the same
      intro key w message hpart
      exact .of_part hpart (.here w _ message _)
    · intro c _ token w hpart
      exact (ih c w _).mono fun i hi => hi.of_part hpart
    · intro c _
      exact ih c v path

end Validation

/-! ## Casts -/

namespace Casting

open Validation

variable {α : Type}

/-- A cast that fails does so with an issue at least, and all its issues are at a location or below
it. -/
def FailsBelow (path : Path) (x : Casts α) : Prop :=
  ∀ is, x.outcome = .error (.issues is) → is ≠ [] ∧ ∀ i ∈ is, path <+: i.path

/-- Failures with an issue at least, all of them at a location or below it, and faults. -/
def IsBelow (path : Path) : CastFailure → Prop
  | .issues is => is ≠ [] ∧ ∀ i ∈ is, path <+: i.path
  | .fault _ => True

/-- A cast fails at a location or below it when its failures do. -/
lemma failsBelow_iff {path : Path} {x : Casts α} :
    FailsBelow path x ↔ FailsOnly (IsBelow path) x := by
  constructor
  · rintro h (is | f) he
    · exact h is he
    · trivial
  · exact fun h is his => h _ his

/-- One issue of a value is at the value, and what is below a part is below the whole. -/
lemma isLocal_isBelow : IsLocal IsBelow where
  issue _ _ _ := ⟨List.cons_ne_nil _ _, List.forall_mem_singleton.2 List.prefix_rfl⟩
  part path token e h := by
    cases e with
    | issues is =>
      exact ⟨h.1, fun i hi => (List.prefix_append path [token]).trans (h.2 i hi)⟩
    | fault f => trivial

/-- A requirement whose check finds issues at a location or below fails there. -/
lemma require_isBelow {path : Path} {check : Check} (h : Finds (fun i => path <+: i.path) check) :
    FailsOnly (IsBelow path) (require check) :=
  .require (fun _ _ => trivial) fun is his hsome => ⟨hsome, h is his⟩

/-! ## What no other node is asked about -/

/-- A conversion fails with an issue of the value itself. -/
lemma castScalar_isBelow (s : Schema) (v : Value) (path : Path) :
    FailsOnly (IsBelow path) (castScalar s v path) := by
  cases castScalar_conversion s v with
  | result r _ heq =>
    rw [heq]
    exact .pure r
  | issue kind message heq =>
    rw [heq]
    exact .fail (isLocal_isBelow.issue kind message path)
  | offCalendar text _ _ _ heq =>
    rw [heq]
    exact .stop trivial

/-- Missing names are an issue of the value itself. -/
lemma requireNames_isBelow (s : Schema) (data : Entries) (path : Path) :
    FailsOnly (IsBelow path) (requireNames s data path) := by
  unfold requireNames
  refine .bind (.guarded fun _ _ => trivial) fun missing => ?_
  split
  · exact .pure _
  · split
    · exact .fail (isLocal_isBelow.issue _ _ path)
    · exact .stop trivial

/-- Properties that must not be there are an issue of the value itself and one of each of them. -/
lemma refuseExtra_isBelow (s : Schema) (extra : Entries) (path : Path) :
    FailsOnly (IsBelow path) (refuseExtra s extra path) := by
  unfold refuseExtra
  split
  · rintro e ⟨⟩
    refine ⟨List.cons_ne_nil _ _, List.forall_mem_cons.2 ⟨List.prefix_rfl, fun i hi => ?_⟩⟩
    obtain ⟨e, -, rfl⟩ := List.mem_map.1 hi
    exact List.prefix_append path [e.1]
  · exact .pure _

/-- A record type that is not known is an issue of the value itself. -/
lemma targetType_isBelow (types : TypeMap) (s : Schema) (path : Path) :
    FailsOnly (IsBelow path) (targetType types s path) := by
  unfold targetType
  split
  · exact .pure _
  · exact .pure _
  · split
    · exact .stop trivial
    · split
      · exact .pure _
      · exact .fail (isLocal_isBelow.issue _ _ path)

/-- A record that is not built is an issue of the value itself. -/
lemma materialize_isBelow (types : TypeMap) (s : Schema) (v : Value) (path : Path) :
    FailsOnly (IsBelow path) (materialize types s v path) := by
  unfold materialize
  refine (targetType_isBelow types s path).bind fun target? => ?_
  split
  · split
    · exact .pure _
    · exact .fail (isLocal_isBelow.issue _ _ path)
  · exact .pure _

/-- Keywords for scalars find issues of the value itself. -/
lemma scalar_isBelow (s : Schema) (v : Value) (path : Path) :
    FailsOnly (IsBelow path) (require do
      let scalar ← checkScalar s v path
      return checkEnum s v path ++ scalar) := by
  have hhere : ∀ kind message, kind ≠ IssueKind.ambiguousMatch →
      path <+: (⟨kind, message, path⟩ : Issue).path := fun _ _ _ => List.prefix_rfl
  refine require_isBelow ((checkScalar_finds hhere s v).bind fun scalar hscalar => .ok ?_)
  exact List.forall_mem_append.2 ⟨checkEnum_finds hhere s v, hscalar⟩

/-- Whatever a schema makes of a value without another node fails with issues of the value itself,
and of properties that must not be there. -/
lemma own_isBelow (s : Schema) : OwnFailsOnly IsBelow s where
  conversion := castScalar_isBelow s
  scalar := scalar_isBelow s
  names := requireNames_isBelow s
  extra := refuseExtra_isBelow s
  below _ _ _ _ _ _ := trivial
  above _ _ _ _ _ _ := trivial
  record types := materialize_isBelow types s

/-! ## Schemas and nodes -/

/-- **The cast by a schema fails at the value or below**, with an issue at least, if the casts and
the checks by other nodes do. -/
lemma castSchema_failsBelow {child : NodeCaster} {check : NodeChecker}
    (hchild : ∀ c w path active, FailsBelow path (child c w path active))
    (hcheck : ∀ c w path, Finds (fun i => path <+: i.path) (check c w path))
    (context : CastContext) (s : Schema) (v : Value) (path : Path) (active : List String) :
    FailsBelow path (castSchema context child check s v path active) := by
  have hfails : ∀ c w path active, FailsOnly (IsBelow path) (child c w path active) :=
    fun c w path active => failsBelow_iff.1 (hchild c w path active)
  refine failsBelow_iff.2 (castSchema_failsOnly isLocal_isBelow (own_isBelow s) isKept_true ?_ ?_
    ?_ context ?_ ?_ ?_)
  · exact fun _ _ _ _ _ _ => trivial
  · exact fun c _ w _ path => hfails c w path active
  · exact fun _ _ _ _ _ _ _ => trivial
  · exact fun c _ w _ path => hfails c w path active
  · exact fun w _ => require_isBelow (hcheck _ w path)
  · exact fun _ target _ _ => hfails (.ref target) v path active

/-- **Casts fail at the value or below**, with an issue at least, at every depth.

**Proof sketch.** Induction on the depth. A name fails as what it stands for does, and a schema as
the nodes below it, whose checks find issues about the value and what is in it. -/
theorem castNode_failsBelow (context : CastContext) (depth : Nat) (node : Node) (v : Value)
    (path : Path) (active : List String) :
    FailsBelow path (castNode context depth node v path active) := by
  induction depth, node using context.registry.node_induction generalizing v path active with
  | zero node => exact failsBelow_iff.2 (.stop trivial)
  | unknown depth name hget =>
    rw [castNode_unknown hget]
    exact failsBelow_iff.2 (.fail (isLocal_isBelow.issue _ _ path))
  | named depth name s hget ih =>
    rw [castNode_named hget]
    exact ih v path _
  | link depth name other hget ih =>
    rw [castNode_link hget]
    exact ih v path _
  | schema depth s ih =>
    have hcheck : ∀ c w path, Finds (fun i => path <+: i.path)
        (checkNode context.registry context.limit depth c w path) := fun c w path =>
      (checkNode_located context.registry context.limit depth c w path).mono fun i hi => hi.isPrefix
    exact castSchema_failsBelow ih hcheck context s v path active

end Casting

/-! ## Whole values -/

/-- **The locations of issues are real.** Token by token, the path of an issue of a whole value leads
to a value in it: through keys of mappings, names of fields, and positions of items. A cast that
fails, from whatever location and at whatever depth, has an issue at least, and all of them are at
that location or below it. So the result of casting a whole value has no issues exactly when its
node has cast it, and then it is what the node has made of it. -/
theorem issues_located (registry : Registry) (node : Node) (v : Value) :
    (∀ limit is, validate registry node v limit = .ok is → ∀ i ∈ is, ∃ u, v.LeadsTo i.path u) ∧
      (∀ types limit depth path active is,
        (Casting.castNode ⟨registry, types, limit⟩ depth node v path active).outcome =
            .error (.issues is) →
          is ≠ [] ∧ ∀ i ∈ is, path <+: i.path) ∧
      ∀ types limit r, (cast ⟨registry, types, limit⟩ node v).outcome = .ok r →
        (r.issues = [] ↔ ∃ w, r = .ok w ∧
          (Casting.castNode ⟨registry, types, limit⟩ limit.toNat node v [] []).outcome =
            .ok w) := by
  refine ⟨fun limit is his i hi => ?_, fun types limit depth path active => ?_, ?_⟩
  · obtain ⟨rest, u, hpath, hu⟩ :=
      Validation.checkNode_located registry limit limit.toNat node v [] is his i hi
    rw [hpath]
    exact ⟨u, hu⟩
  · exact Casting.castNode_failsBelow ⟨registry, types, limit⟩ depth node v path active
  · intro types limit r hr
    cases r with
    | ok w => exact ⟨fun _ => ⟨w, rfl, cast_outcome_ok.1 hr⟩, fun _ => rfl⟩
    | failed is =>
      have hfails := Casting.castNode_failsBelow ⟨registry, types, limit⟩ limit.toNat node v [] []
      refine ⟨fun hnone => absurd hnone (hfails is (cast_outcome_failed.1 hr)).1, ?_⟩
      rintro ⟨w, hw, -⟩
      cases hw

/-- A basket of sizes and nothing else. -/
def basket : Schema where
  properties := some [("sizes", .schema { items := some (.schema { type := some .integer }) })]
  additional := .flag false

/-- A basket with a size that is no number, and with a note. -/
def notedBasket : Value :=
  .mapping [(.str "sizes", .list [.int 38, .str "large"]), (.str "note", .str "gift")]

/-- The size that is no number and the note are issues that name them, and the note alone keeps the
basket from being cast, with an issue of the basket and one of the note. -/
theorem notedBasket_located :
    (∃ is, validate ⟨[]⟩ (.schema basket) notedBasket 64 = .ok is ∧
      is.map Issue.kind = [.wrongType, .unexpectedProperty] ∧
      ∀ i ∈ is, ∃ u, notedBasket.LeadsTo i.path u) ∧
    (∃ is, (Casting.castNode ⟨⟨[]⟩, .generic, 64⟩ 8 (.schema basket) notedBasket
        [.str "cart"] []).outcome = .error (.issues is) ∧
      is ≠ [] ∧ ∀ i ∈ is, [.str "cart"] <+: i.path) ∧
    ∃ r, (cast ⟨⟨[]⟩, .generic, 64⟩ (.schema basket) (.mapping [])).outcome = .ok r ∧
      r.issues = [] := by
  obtain ⟨hcheck, hcast, -⟩ := issues_located ⟨[]⟩ (.schema basket) notedBasket
  obtain ⟨-, -, hresult⟩ := issues_located ⟨[]⟩ (.schema basket) (.mapping [])
  refine ⟨?_, ?_, ?_⟩
  · obtain ⟨is, his, hkinds⟩ : ∃ is, validate ⟨[]⟩ (.schema basket) notedBasket 64 = .ok is ∧
        is.map Issue.kind = [.wrongType, .unexpectedProperty] :=
      exists_ok_of_kinds (by decide +kernel)
    exact ⟨is, his, hkinds, hcheck 64 is his⟩
  · have hfails : (Casting.castNode ⟨⟨[]⟩, .generic, 64⟩ 8 (.schema basket) notedBasket
        [.str "cart"] []).outcome = .error (.issues [
          ⟨.castError, "Unexpected field(s): note", [.str "cart"]⟩,
          ⟨.unexpectedProperty, "Unexpected property 'note'", [.str "cart", .str "note"]⟩]) := rfl
    exact ⟨_, hfails, hcast .generic 64 8 [.str "cart"] [] _ hfails⟩
  · refine ⟨.ok (.mapping []), rfl, ?_⟩
    exact (hresult .generic 64 _ rfl).2 ⟨.mapping [], rfl, rfl⟩

end DataSchema
