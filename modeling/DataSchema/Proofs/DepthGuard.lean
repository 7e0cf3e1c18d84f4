import Mathlib.Order.Filter.AtTopBot.Basic
import Mathlib.Order.Filter.Finite
import DataSchema.Proofs.Cycles
import DataSchema.Proofs.DepthStability

set_option autoImplicit false

/-!
# The depth guard stops cycles only

Where no name leads in place to itself, every check comes to an end before the depth guard stops it,
once the limit is large enough, and so does every cast that builds no records. A check or a cast
goes on in three ways, and none of them goes on forever: to a part of the value, which nests less
deeply; to a schema that a discriminator selects, which is then open and not selected again; and in
place. Casts never make values nest more deeply, so that the first of these bounds hold of all values
that a cast makes on its way.

## Main definitions

* `DataSchema.Validation.ChecksWithin`, `DataSchema.Casting.CastsWithin` — depths that suffice for
  all values that nest within a number of levels.
* `DataSchema.Registry.selectable` — how many names can still be selected.

## Main results

* `DataSchema.Casting.isKept_nestsWithin` — casts never make values nest more deeply.
* `DataSchema.Validation.eventually_checksWithin`, `DataSchema.Casting.eventually_castsWithin` —
  checks and casts by nodes.
* `DataSchema.withinDepth_of_isAcyclic` — checks and casts of whole values.
-/

namespace DataSchema

open Filter

/-! ## What no other node is asked about -/

namespace Validation

/-- A keyword holds a number, or does not, within the depth guard. -/
lemma keywordNumber_withinDepth (keyword : Value) : WithinDepth (keywordNumber keyword) := by
  unfold keywordNumber
  split
  · exact .ok _
  · exact .error rfl

/-- A count is compared within the depth guard. -/
lemma below_withinDepth (count : Nat) (keyword : Value) : WithinDepth (below count keyword) := by
  unfold below
  split
  · exact .ok _
  · exact (keywordNumber_withinDepth keyword).map _

/-- A count is compared within the depth guard. -/
lemma above_withinDepth (count : Nat) (keyword : Value) : WithinDepth (above count keyword) := by
  unfold above
  split
  · exact .ok _
  · exact (keywordNumber_withinDepth keyword).map _

/-- A pattern is looked for within the depth guard. -/
lemma patternMissing_withinDepth (pattern : Value) (text : String) :
    WithinDepth (patternMissing pattern text) := by
  unfold patternMissing
  split
  · exact .ok _
  · refine StopsOnly.map ?_ _
    unfold patternOccurs
    split
    · split
      · exact .ok _
      · exact .error rfl
    · exact .error rfl

/-- A text is checked within the depth guard. -/
lemma textIssues_withinDepth (s : Schema) (v : Value) (path : Path) :
    WithinDepth (textIssues s v path) := by
  unfold textIssues
  split
  · rw [checkText_eq]
    refine (below_withinDepth _ _).bind fun short => (above_withinDepth _ _).bind fun long => ?_
    exact (patternMissing_withinDepth _ _).bind fun missing => .ok _
  · exact .ok _

/-- A number is compared with a bound within the depth guard. -/
lemma checkBound_withinDepth (n : Number) (v bound exclusive : Value)
    (strictly weakly : Number → Number → Bool) (excludedWords includedWords : String)
    (path : Path) :
    WithinDepth
      (checkBound n v bound exclusive strictly weakly excludedWords includedWords path) := by
  rw [checkBound_eq]
  split
  · exact .ok _
  · exact (keywordNumber_withinDepth bound).map _

/-- A number is divided within the depth guard. -/
lemma checkMultiple_withinDepth (n : Number) (v multipleOf : Value) (path : Path) :
    WithinDepth (checkMultiple n v multipleOf path) := by
  unfold checkMultiple
  split
  · exact .ok _
  · split
    · exact .error rfl
    · split
      · exact .ok _
      · exact .error rfl

/-- A number is checked within the depth guard. -/
lemma numberIssues_withinDepth (s : Schema) (v : Value) (path : Path) :
    WithinDepth (numberIssues s v path) := by
  unfold numberIssues
  split
  · unfold checkNumber
    refine (checkBound_withinDepth _ _ _ _ _ _ _ _ _).bind fun low => ?_
    refine (checkBound_withinDepth _ _ _ _ _ _ _ _ _).bind fun high => ?_
    exact (checkMultiple_withinDepth _ _ _ _).bind fun multiple => .ok _
  · exact .ok _

/-- A text is compared with a known format within the depth guard. -/
lemma textConforms_withinDepth (known : KnownFormat) (text : String) :
    WithinDepth (textConforms known text) := by
  unfold textConforms
  split
  all_goals try exact .ok _
  -- only timestamps are left, of which some are off the calendar
  split
  · exact .ok _
  · exact .ok _
  · exact .error rfl

/-- A value is compared with a known format within the depth guard. -/
lemma checkKnown_withinDepth (name : String) (known : KnownFormat) (v : Value) :
    WithinDepth (checkKnown name known v) := by
  unfold checkKnown
  split
  · split
    · exact .ok _
    · exact .ok _
    · exact .error rfl
  · exact .ok _
  · exact .ok _
  · exact .ok _
  · refine (textConforms_withinDepth _ _).bind fun conforms => ?_
    cases conforms <;> exact .ok _
  · exact .ok _

/-- A format is checked within the depth guard. -/
lemma checkFormat_withinDepth (v format : Value) : WithinDepth (checkFormat v format) := by
  unfold checkFormat
  split
  · exact .ok _
  · split
    · split
      · exact checkKnown_withinDepth _ _ v
      · exact .ok _
    · split
      · exact .ok _
      · exact .error rfl

/-- What a schema asks of a value without another node is checked within the depth guard. -/
lemma ownWithinDepth (s : Schema) : OwnStopsOnly (fun f => f.isTooDeep = false) s where
  scalar v path := by
    rw [checkScalar_eq, checkFormatKeyword_eq]
    refine (textIssues_withinDepth s v path).bind fun text => ?_
    refine (numberIssues_withinDepth s v path).bind fun number => ?_
    exact ((checkFormat_withinDepth v s.format).map _).bind fun format => .ok _
  below keyword _ n := below_withinDepth n keyword
  above keyword _ n := above_withinDepth n keyword
  required data path n _ := by
    unfold checkRequiredName
    split
    · exact .error rfl
    · exact .ok _

end Validation

/-- A scalar has no parts. -/
lemma Value.not_hasPart_of_isScalar {v : Value} (h : v.isScalar = true) (w : Value) :
    ¬v.HasPart w := by
  rintro (⟨hitems, -⟩ | ⟨hview, -⟩)
  · rw [Value.items?_of_isScalar h] at hitems
    cases hitems
  · rw [Value.objectView?_of_isScalar h] at hview
    cases hview

namespace Casting

/-- Names are looked up within the depth guard. -/
lemma missingNames_withinDepth (data : Entries) (names : List Value) :
    WithinDepth (missingNames data names) := by
  induction names with
  | nil => exact .ok _
  | cons name names ih =>
    unfold missingNames
    split
    · exact .error rfl
    · exact ih.bind fun others => .ok _

/-- Required names are looked up within the depth guard. -/
lemma requireNames_withinDepth (s : Schema) (data : Entries) (path : Path) :
    CastWithinDepth (requireNames s data path) := by
  unfold requireNames
  refine (CastStopsOnly.guarded (missingNames_withinDepth data s.required)).bind fun missing => ?_
  split
  · exact .pure _
  · split
    · exact .fail _ _ _
    · exact .stop rfl

/-- A value is converted within the depth guard. -/
lemma castScalar_withinDepth (s : Schema) (v : Value) (path : Path) :
    CastWithinDepth (castScalar s v path) := by
  cases castScalar_conversion s v with
  | result r _ heq =>
    rw [heq]
    exact .pure r
  | issue kind message heq =>
    rw [heq]
    exact .fail kind message path
  | offCalendar text _ _ _ heq =>
    rw [heq]
    exact .stop rfl

/-- A record type is looked up within the depth guard. -/
lemma targetType_withinDepth (types : TypeMap) (s : Schema) (path : Path) :
    CastWithinDepth (targetType types s path) := by
  unfold targetType
  split
  · exact .pure _
  · exact .pure _
  · split
    · exact .stop rfl
    · split
      · exact .pure _
      · exact .fail _ _ _

/-- What a schema makes of a value without another node is made within the depth guard. -/
lemma ownCastWithinDepth (s : Schema) : OwnCastStopsOnly (fun f => f.isTooDeep = false) s where
  toOwnStopsOnly := Validation.ownWithinDepth s
  conversion v path := castScalar_withinDepth s v path
  names data path := requireNames_withinDepth s data path
  record types v path := materialize_stopsOnly (targetType_withinDepth types s path) v

/-! ## How deeply values nest -/

/-- A part of mappings put over each other is a part of one of them. -/
lemma hasPart_merge {es fs : Entries} {w : Value}
    (h : (Value.mapping (Entries.merge es fs)).HasPart w) :
    (Value.mapping es).HasPart w ∨ (Value.mapping fs).HasPart w := by
  obtain ⟨e, he, rfl⟩ := Value.hasPart_mapping.1 h
  rcases Entries.mem_merge he with he | ⟨f, hf, hvalue, -⟩
  · exact .inl (Value.hasPart_mapping.2 ⟨e, he, rfl⟩)
  · exact .inr (Value.hasPart_mapping.2 ⟨f, hf, hvalue.symm⟩)

/-- Mappings put over each other nest no more deeply than both of them. -/
lemma nestsWithin_merge {es fs : Entries} {n : Nat} (hes : (Value.mapping es).NestsWithin n)
    (hfs : (Value.mapping fs).NestsWithin n) :
    (Value.mapping (Entries.merge es fs)).NestsWithin n := by
  cases n with
  | zero => exact fun w hw => (hasPart_merge hw).elim (hes w) (hfs w)
  | succ n => exact fun w hw => (hasPart_merge hw).elim (hes w) (hfs w)

/-- **Casts never make values nest more deeply.** -/
lemma isKept_nestsWithin :
    IsKept fun v r : Value => ∀ n, v.NestsWithin n → r.NestsWithin n where
  refl _ _ h := h
  trans huv hvw n h := hvw n (huv n h)
  scalar _ hr n h := h.of_parts fun w hw => absurd hw (Value.not_hasPart_of_isScalar hr w)
  items hitems hlength hall n h := by
    refine h.of_parts fun y hy => ?_
    obtain ⟨i, hi, rfl⟩ := List.getElem_of_mem (Value.hasPart_list.1 hy)
    have hi' := hlength ▸ hi
    refine ⟨_, .item hitems (List.getElem_mem hi'), ?_⟩
    exact hall i _ _ (List.getElem?_eq_getElem hi') (List.getElem?_eq_getElem hi)
  entries hview hall n h := by
    refine h.of_parts fun y hy => ?_
    obtain ⟨f, hf, rfl⟩ := Value.hasPart_mapping.1 hy
    obtain ⟨e, he, -, hnests⟩ := hall f hf
    exact ⟨_, .property hview he, hnests⟩
  merge hes hfs n h := nestsWithin_merge (hes n h) (hfs n h)

end Casting

/-! ## From some depth on -/

/-- What holds of each of several things from some depth on holds of all of them from some depth
on. -/
lemma eventually_forall_mem {α : Type} {l : List α} {Q : α → Nat → Prop}
    (h : ∀ a ∈ l, ∀ᶠ depth in atTop, Q a depth) : ∀ᶠ depth in atTop, ∀ a ∈ l, Q a depth :=
  (eventually_all_finite l.finite_toSet).2 h

/-- What holds one step further from some depth on holds from some depth on. -/
lemma eventually_of_succ {Q : Nat → Prop} (h : ∀ᶠ depth in atTop, Q (depth + 1)) :
    ∀ᶠ depth in atTop, Q depth := by
  obtain ⟨least, h⟩ := eventually_atTop.1 h
  refine eventually_atTop.2 ⟨least + 1, fun depth hdepth => ?_⟩
  obtain ⟨depth, rfl⟩ : ∃ d, depth = d + 1 := ⟨depth - 1, by omega⟩
  exact h depth (by omega)

/-- What holds from some depth on holds one step further from some depth on. -/
lemma eventually_succ {Q : Nat → Prop} (h : ∀ᶠ depth in atTop, Q depth) :
    ∀ᶠ depth in atTop, Q (depth + 1) :=
  (tendsto_add_atTop_nat 1).eventually h

/-! ## Checks -/

namespace Validation

variable {registry : Registry} {n : Nat}

/-- A depth suffices for checks by a node of values that nest within a number of levels. -/
def ChecksWithin (registry : Registry) (n : Nat) (node : Node) (depth : Nat) : Prop :=
  ∀ limit v path, v.NestsWithin n → WithinDepth (checkNode registry limit depth node v path)

/-- Checks come to an end at values that nest within a number of levels if they do at parts of
these.

**Proof sketch.** Induction along steps in place. What a schema asks without another node is checked
within the depth guard, and so are, from some depth on, the parts and the value itself by the nodes
below. -/
lemma eventually_checksWithin_of_parts (h : registry.IsAcyclic)
    (hparts : ∀ c, ∀ᶠ depth in atTop, ∀ limit (v w : Value) path, v.NestsWithin n → v.HasPart w →
      WithinDepth (checkNode registry limit depth c w path)) (node : Node) :
    ∀ᶠ depth in atTop, ChecksWithin registry n node depth := by
  induction node using h.wellFounded_next.induction with
  | h node ih =>
    cases node with
    | schema s =>
      have hsame : ∀ᶠ depth in atTop, ∀ c ∈ s.sameNodes, ChecksWithin registry n c depth :=
        eventually_forall_mem fun c hc => ih c (.inner hc)
      refine eventually_of_succ ?_
      filter_upwards [hsame, eventually_forall_mem (l := s.partNodes) fun c _ => hparts c]
        with depth hsame hparts limit v path hv
      refine checkSchema_stopsOnly (ownWithinDepth s) (fun c hc w hw path => ?_) fun c hc => ?_
      · exact hparts c hc limit v w path hv hw
      · exact hsame c hc limit v path hv
    | ref name =>
      refine eventually_of_succ ?_
      cases hget : registry.get? name with
      | none =>
        refine .of_forall fun depth limit v path _ => ?_
        rw [checkNode_unknown hget]
        exact .ok _
      | some target =>
        have htarget := ih target (.target hget)
        filter_upwards [htarget, eventually_succ htarget] with depth hlink hnamed limit v path hv
        cases target with
        | schema s =>
          rw [checkNode_named hget]
          exact hnamed limit v path hv
        | ref other =>
          rw [checkNode_link hget]
          exact hlink limit v path hv

/-- **Checks by nodes come to an end** where no name leads in place to itself. -/
theorem eventually_checksWithin (h : registry.IsAcyclic) (n : Nat) (node : Node) :
    ∀ᶠ depth in atTop, ChecksWithin registry n node depth := by
  induction n generalizing node with
  | zero =>
    refine eventually_checksWithin_of_parts h (fun c => .of_forall ?_) node
    exact fun depth limit v w path hv hw => absurd hw (hv w)
  | succ n ih =>
    refine eventually_checksWithin_of_parts h (fun c => ?_) node
    filter_upwards [ih c] with depth hdepth limit v w path hv hw
    exact hdepth limit w path (hv w hw)

end Validation

/-! ## Casts -/

namespace Registry

variable {registry : Registry} {active : List String} {name : String}

/-- How many names of a registry can still be selected below open references. -/
def selectable (registry : Registry) (active : List String) : Nat :=
  (registry.boundNames.toFinset \ active.toFinset).card

/-- No more names can be selected below one more open reference. -/
lemma selectable_cons_le (name : String) (active : List String) :
    registry.selectable (name :: active) ≤ registry.selectable active := by
  unfold selectable
  rw [List.toFinset_cons, Finset.sdiff_insert]
  exact Finset.card_erase_le

/-- No more names can be selected than without open references. -/
lemma selectable_le (active : List String) : registry.selectable active ≤ registry.selectable [] :=
  Finset.card_le_card (Finset.sdiff_subset_sdiff (Finset.Subset.refl _) (by simp))

/-- Fewer names can be selected below a name that could be selected. -/
lemma selectable_cons_lt {node : Node} (hget : registry.get? name = some node)
    (hname : name ∉ active) : registry.selectable (name :: active) < registry.selectable active := by
  unfold selectable
  rw [List.toFinset_cons, Finset.sdiff_insert]
  refine Finset.card_erase_lt_of_mem ?_
  simpa using ⟨mem_boundNames hget, hname⟩

end Registry

namespace Casting

variable {registry : Registry} {types : TypeMap} {n : Nat}

/-- A depth suffices for casts by a node of values that nest within a number of levels, below open
references of a kind. -/
def CastsWithin (registry : Registry) (types : TypeMap) (Open : List String → Prop) (n : Nat)
    (node : Node) (depth : Nat) : Prop :=
  ∀ limit v path active, Open active → v.NestsWithin n →
    CastWithinDepth (castNode ⟨registry, types, limit⟩ depth node v path active)

/-- Casts by a name come to an end if they do by its node with the name open. -/
lemma eventually_castsWithin_ref {Open Open' : List String → Prop} {name : String} {target : Node}
    (hget : registry.get? name = some target)
    (hopen : ∀ active, Open active → Open' (name :: active))
    (h : ∀ᶠ depth in atTop, CastsWithin registry types Open' n target depth) :
    ∀ᶠ depth in atTop, CastsWithin registry types Open n (.ref name) depth := by
  refine eventually_of_succ ?_
  filter_upwards [h, eventually_succ h] with depth hlink hnamed limit v path active hactive hv
  cases target with
  | schema s =>
    rw [castNode_named hget]
    exact hnamed limit v path _ (hopen active hactive) hv
  | ref other =>
    rw [castNode_link hget]
    exact hlink limit v path _ (hopen active hactive) hv

section

variable (h : registry.IsAcyclic)
  (hparts : ∀ c, registry.BuildsNoRecords c → ∀ᶠ depth in atTop, ∀ limit (v w : Value) path active,
    v.NestsWithin n → v.HasPart w →
      CastWithinDepth (castNode ⟨registry, types, limit⟩ depth c w path active))

include h hparts

/-- Casts come to an end at values that nest within a number of levels if they do at parts of these,
and by the names that can still be selected.

**Proof sketch.** Induction along steps in place, as for checks. What the value becomes on the way
nests no more deeply than the value, so that the casts and checks by the nodes below come to an end
at all of it. -/
lemma eventually_castsWithin_of_selected {most : Nat}
    (hselected : ∀ target, (registry.get? target).isSome = true →
      registry.BuildsNoRecords (.ref target) → ∀ᶠ depth in atTop, CastsWithin registry types
        (fun active => registry.selectable active ≤ most ∧ target ∉ active) n (.ref target) depth)
    {node : Node} (hnode : registry.BuildsNoRecords node) :
    ∀ᶠ depth in atTop, CastsWithin registry types
      (fun active => registry.selectable active ≤ most) n node depth := by
  induction node using h.wellFounded_next.induction with
  | h node ih =>
    cases node with
    | schema s =>
      have hsame : ∀ᶠ depth in atTop, ∀ c ∈ s.sameNodes, CastsWithin registry types
          (fun active => registry.selectable active ≤ most) n c depth :=
        eventually_forall_mem fun c hc =>
          ih c (.inner hc) (hnode.below (Keywords.mem_children_of_same hc))
      have hpart := eventually_forall_mem (l := s.partNodes) fun c hc =>
        hparts c (hnode.below (Keywords.mem_children_of_part hc))
      have hchecks := eventually_forall_mem (l := s.sameNodes) fun c _ =>
        Validation.eventually_checksWithin h n c
      have hwhole := Validation.eventually_checksWithin h n (.schema s.withoutAlternatives)
      have hchosen : ∀ᶠ depth in atTop, ∀ target ∈ registry.boundNames,
          s.discriminator.isSome = true → (registry.get? target).isSome = true →
            CastsWithin registry types
              (fun active => registry.selectable active ≤ most ∧ target ∉ active) n (.ref target)
              depth := by
        refine eventually_forall_mem fun target _ => ?_
        simp only [eventually_imp_distrib_left]
        exact fun hsome hbound => hselected target hbound (hnode.selected hsome hbound)
      refine eventually_of_succ ?_
      filter_upwards [hsame, hpart, hchecks, hwhole, hchosen]
        with depth hsame hpart hchecks hwhole hchosen limit v path active hactive hv
      refine castSchema_stopsOnly (ownCastWithinDepth s) isKept_nestsWithin
        (fun c hc w path r hr => ?_) (fun c hc w hw path => ?_) (fun c hc w hw path => ?_) _
        (fun c hc w hw path => ?_) (fun w hw => ?_) fun hsome target hbound htarget => ?_
      · exact castNode_kept isKept_nestsWithin (hnode.below hc) hr
      · exact hsame c hc limit w path active hactive (hw n hv)
      · exact hchecks c hc limit w path (hw n hv)
      · exact hpart c hc limit v w path active hv hw
      · exact hwhole limit w path (hw n hv)
      · obtain ⟨node, hget⟩ := Option.isSome_iff_exists.1 hbound
        exact hchosen target (Registry.mem_boundNames hget) hsome hbound limit v path active
          ⟨hactive, htarget⟩ hv
    | ref name =>
      cases hget : registry.get? name with
      | none =>
        refine eventually_of_succ (.of_forall fun depth limit v path active _ _ => ?_)
        rw [castNode_unknown hget]
        exact .fail _ _ _
      | some target =>
        refine eventually_castsWithin_ref hget (fun active hactive => ?_)
          (ih target (.target hget) (hnode.ref hget))
        exact (registry.selectable_cons_le name active).trans hactive

/-- Casts come to an end at values that nest within a number of levels if they do at parts of
these.

**Proof sketch.** Induction on the number of names that can still be selected: a name that is
selected is open from there on, and one less can be selected. -/
lemma eventually_castsWithin_of_parts (most : Nat) {node : Node}
    (hnode : registry.BuildsNoRecords node) :
    ∀ᶠ depth in atTop, CastsWithin registry types
      (fun active => registry.selectable active ≤ most) n node depth := by
  induction most generalizing node with
  | zero =>
    refine eventually_castsWithin_of_selected h hparts (fun target hbound _ => ?_) hnode
    obtain ⟨node, hget⟩ := Option.isSome_iff_exists.1 hbound
    refine .of_forall fun depth limit v path active ⟨hactive, htarget⟩ _ => ?_
    have hlt := Registry.selectable_cons_lt hget htarget
    omega
  | succ most ih =>
    refine eventually_castsWithin_of_selected h hparts (fun target hbound htarget => ?_) hnode
    obtain ⟨node, hget⟩ := Option.isSome_iff_exists.1 hbound
    refine eventually_castsWithin_ref hget (fun active ⟨hactive, hnot⟩ => ?_) (ih (htarget.ref hget))
    have hlt := Registry.selectable_cons_lt hget hnot
    show registry.selectable (target :: active) ≤ most
    omega

end

/-- **Casts by nodes come to an end** where no name leads in place to itself and no records are
built. -/
theorem eventually_castsWithin (h : registry.IsAcyclic) (types : TypeMap) (n most : Nat)
    {node : Node} (hnode : registry.BuildsNoRecords node) :
    ∀ᶠ depth in atTop, CastsWithin registry types
      (fun active => registry.selectable active ≤ most) n node depth := by
  induction n generalizing most node with
  | zero =>
    refine eventually_castsWithin_of_parts h (fun c _ => .of_forall ?_) most hnode
    exact fun depth limit v w path active hv hw => absurd hw (hv w)
  | succ n ih =>
    refine eventually_castsWithin_of_parts h (fun c hc => ?_) most hnode
    -- Below a part, all open references count, so that the bound is the number of all names.
    filter_upwards [ih (registry.selectable []) hc] with depth hdepth limit v w path active hv hw
    exact hdepth limit w path active (registry.selectable_le active) (hv w hw)

end Casting

/-! ## Whole values -/

/-- **The depth guard stops cycles only.** Where no name leads in place to itself, every value is
checked against every node within every limit from some limit on, and, if no records are built, it
is cast so. Neither discriminators nor recursion through properties and items make a difference. -/
theorem withinDepth_of_isAcyclic {registry : Registry} (h : registry.IsAcyclic) (node : Node)
    (v : Value) :
    (∃ least : Int, ∀ limit ≥ least, WithinDepth (validate registry node v limit)) ∧
    (registry.BuildsNoRecords node → ∀ types, ∃ least : Int, ∀ limit ≥ least,
      WithinDepth (cast ⟨registry, types, limit⟩ node v).outcome) := by
  obtain ⟨n, hv⟩ := v.exists_nestsWithin
  constructor
  · obtain ⟨least, hleast⟩ := eventually_atTop.1 (Validation.eventually_checksWithin h n node)
    refine ⟨least, fun limit hlimit => ?_⟩
    exact hleast limit.toNat (by omega) limit v [] hv
  · intro hnode types
    obtain ⟨least, hleast⟩ := eventually_atTop.1
      (Casting.eventually_castsWithin h types n (registry.selectable []) hnode)
    refine ⟨least, fun limit hlimit => withinDepth_cast.2 ?_⟩
    exact hleast limit.toNat (by omega) limit v [] [] le_rfl hv

/-- A component of a machine, which is of the kind that it names, with a component inside. -/
def component : Schema where
  type := some .object
  properties := some [("kind", .schema { type := some .string }), ("inside", .ref "Component")]
  discriminator := some ⟨"kind", []⟩

/-- What an engine has besides. -/
def power : Schema where
  type := some .object
  properties := some [("power", .schema { type := some .integer })]

/-- An engine, which is a component with a power. -/
def engine : Schema where
  allOf := some [.ref "Component", .schema power]

/-- Components and engines. -/
def machinery : Registry := ⟨[("Component", .schema component), ("Engine", .schema engine)]⟩

/-- Only engines lead in place to another name, which is that of components. -/
lemma machinery_isAcyclic : machinery.IsAcyclic := by
  have hleads : ∀ {a b}, machinery.LeadsTo a b → a = "Engine" ∧ b = "Component" := by
    rintro a b ⟨node, hget, hb⟩
    have hentry : a = "Component" ∧ node = .schema component ∨
        a = "Engine" ∧ node = .schema engine := by
      simpa [machinery] using mem_of_lookup hget
    rcases hentry with ⟨rfl, rfl⟩ | ⟨rfl, rfl⟩
    · cases hb with
      | inner hc => cases hc
    · cases hb with
      | inner hc hb =>
        obtain rfl | rfl := List.mem_pair.1 (show _ ∈ [Node.ref "Component", .schema power] from hc)
        · cases hb
          exact ⟨rfl, rfl⟩
        · cases hb with
          | inner hc => cases hc
  have hpath : ∀ {a b}, Relation.TransGen machinery.LeadsTo a b →
      a = "Engine" ∧ b = "Component" := by
    intro a b h
    induction h with
    | single hab => exact hleads hab
    | tail _ hbc ih => exact ⟨ih.1, (hleads hbc).2⟩
  intro name h
  obtain ⟨rfl, hname⟩ := hpath h
  exact absurd hname (by decide)

/-- The nodes that a component leads to. -/
def machineNodes : List Node :=
  [.ref "Component", .ref "Engine"] ++
    [component, engine, power, { type := some .string }, { type := some .integer }].map .schema

/-- Components lead to no schema with a record type. -/
lemma machinery_buildsNoRecords : machinery.BuildsNoRecords (.ref "Component") := by
  refine .of_list machineNodes ?_ ?_ (by simp [machineNodes])
  · intro name hname target hget
    have hnames : name = "Component" ∨ name = "Engine" := by simpa [machineNodes] using hname
    rcases hnames with rfl | rfl <;> obtain rfl := Option.some.inj hget <;> simp [machineNodes]
  · have hschemas : ∀ t ∈ ([component, engine, power, { type := some .string },
        { type := some .integer }] : List Schema),
        machinery.steps t ⊆ machineNodes ∧ t.targetType = .absent := by
      simp [Registry.steps, Keywords.children, Keywords.partNodes, Keywords.sameNodes,
        Keywords.declared, Keywords.allOfList, Keywords.anyOfList, Keywords.oneOfList,
        Additional.node?, component, engine, power, machinery, machineNodes]
    exact fun t ht => hschemas t (by simpa [machineNodes] using ht)

/-- An engine with an engine inside. -/
def twinEngine : Value :=
  .mapping [(.str "kind", .str "Engine"), (.str "power", .str "3"), (.str "inside",
    .mapping [(.str "kind", .str "Engine"), (.str "power", .int 5)])]

/-- An engine with an engine inside, each of which selects its kind, which in turn is composed of
what selects it, is checked and cast within some limit. -/
theorem twinEngine_withinDepth :
    machinery.IsAcyclic ∧ machinery.BuildsNoRecords (.ref "Component") ∧
    (∃ least : Int, ∀ limit ≥ least,
      WithinDepth (validate machinery (.ref "Component") twinEngine limit)) ∧
    ∃ least : Int, ∀ limit ≥ least,
      WithinDepth (cast ⟨machinery, .generic, limit⟩ (.ref "Component") twinEngine).outcome := by
  obtain ⟨hchecks, hcasts⟩ :=
    withinDepth_of_isAcyclic machinery_isAcyclic (.ref "Component") twinEngine
  exact ⟨machinery_isAcyclic, machinery_buildsNoRecords, hchecks,
    hcasts machinery_buildsNoRecords .generic⟩

end DataSchema
