import Mathlib.Data.List.Perm.Basic
import Mathlib.Order.Bounds.Basic
import DataSchema.Proofs.JsonData

set_option autoImplicit false

/-!
# Items that are not repeated

A schema that asks for distinct items looks through them once, and compares each with those before
it. What it names is the first position whose item equals an earlier one. Equality of plain values
is symmetric, so that nothing is named exactly if no two positions hold equal items, in whatever
order the items stand. A cast looks through the items in the same way, and fails at the same
position.

## Main definitions

* `DataSchema.Value.EqualAt` — equality of the items at two positions.
* `DataSchema.Value.RepeatedAt` — positions of items that equal earlier ones.
* `DataSchema.Keywords.distinctItems` — schemas that ask for distinct items and for nothing else.

## Main results

* `DataSchema.Validation.firstRepeated_eq_some` — what is named is the first repeated position.
* `DataSchema.Conformance.areDistinct_perm` — plain items are distinct in any order.
* `DataSchema.validate_distinctItems`, `DataSchema.cast_distinctItems` — checks and casts by such
  schemas.
* `DataSchema.repeatedItem_reported` — both name the first repeated position.
-/

namespace DataSchema

/-! ## Repeated positions -/

namespace Value

/-- The items at two positions are JSON-equal. -/
def EqualAt (items : List Value) (i j : Nat) : Prop :=
  ∃ v ∈ items[i]?, ∃ w ∈ items[j]?, v.jsonEqual w = true

instance (items : List Value) (i j : Nat) : Decidable (EqualAt items i j) :=
  inferInstanceAs (Decidable (∃ v ∈ items[i]?, ∃ w ∈ items[j]?, v.jsonEqual w = true))

/-- The item at a position equals one before it. -/
def RepeatedAt (items : List Value) (j : Nat) : Prop := ∃ i < j, EqualAt items j i

variable {items earlier vs : List Value} {v : Value} {i j : Nat}

/-- Positions with equal items are positions of the list. -/
lemma EqualAt.lt_length (h : EqualAt items i j) : i < items.length := by
  obtain ⟨v, hv, -⟩ := h
  exact (List.getElem?_eq_some_iff.1 hv).1

/-- Plain items are equal both ways round. -/
lemma EqualAt.symm (hplain : ∀ w ∈ items, w.IsPlain) (h : EqualAt items i j) :
    EqualAt items j i := by
  obtain ⟨v, hv, w, hw, hequal⟩ := h
  refine ⟨w, hw, v, hv, ?_⟩
  rwa [← (hplain v (List.mem_of_getElem? hv)).jsonEqual_comm (hplain w (List.mem_of_getElem? hw))]

/-- The item after some others is repeated if it equals one of them. -/
lemma repeatedAt_length :
    RepeatedAt (earlier ++ v :: vs) earlier.length ↔ earlier.any v.jsonEqual = true := by
  have hhere : (earlier ++ v :: vs)[earlier.length]? = some v := by simp
  rw [List.any_eq_true]
  constructor
  · rintro ⟨i, hi, v', hv', w, hw, hequal⟩
    obtain rfl : v = v' := Option.some.inj (hhere.symm.trans hv')
    rw [Option.mem_def, List.getElem?_append_left hi] at hw
    exact ⟨w, List.mem_of_getElem? hw, hequal⟩
  · rintro ⟨w, hw, hequal⟩
    obtain ⟨i, hi, hget⟩ := List.getElem_of_mem hw
    refine ⟨i, hi, v, hhere, w, ?_, hequal⟩
    rw [Option.mem_def, List.getElem?_append_left hi, List.getElem?_eq_getElem hi, hget]

/-- Two positions hold equal plain items exactly if one of them is repeated. -/
lemma exists_repeatedAt (hplain : ∀ w ∈ items, w.IsPlain) :
    (∃ j, RepeatedAt items j) ↔ ∃ i j, i ≠ j ∧ EqualAt items i j := by
  constructor
  · rintro ⟨j, i, hlt, h⟩
    exact ⟨j, i, hlt.ne', h⟩
  · rintro ⟨i, j, hne, h⟩
    rcases Nat.lt_or_gt_of_ne hne with hlt | hlt
    · exact ⟨j, i, hlt, h.symm hplain⟩
    · exact ⟨i, j, hlt, h⟩

end Value

namespace Validation

open Value

variable {items : List Value} {j : Nat}

/-- **The first repeated position is found** by looking on from positions that are not repeated.

**Proof sketch.** Induction on the items that are left. The next one either equals an earlier one,
and is the first that does, or is one more that is not repeated. -/
lemma firstRepeated_from {earlier : List Value} (vs : List Value)
    (h : ∀ i < earlier.length, ¬RepeatedAt (earlier ++ vs) i) :
    firstRepeated earlier earlier.length vs = some j ↔
      IsLeast {j | RepeatedAt (earlier ++ vs) j} j := by
  induction vs generalizing earlier with
  | nil =>
    -- All positions have been passed, and none of them is repeated.
    refine iff_of_false (fun hnone => by cases hnone) fun ⟨hj, _⟩ => ?_
    obtain ⟨i, -, hequal⟩ := id hj
    exact h j (by simpa using hequal.lt_length) hj
  | cons v vs ih =>
    rw [firstRepeated]
    split
    next hany =>
      have hleast : IsLeast {j | RepeatedAt (earlier ++ v :: vs) j} earlier.length :=
        ⟨repeatedAt_length.2 hany, fun i hi => Nat.le_of_not_lt fun hlt => h i hlt hi⟩
      rw [Option.some.injEq]
      exact ⟨fun heq => heq ▸ hleast, fun hj => hleast.unique hj⟩
    next hany =>
      have hlength : (earlier ++ [v]).length = earlier.length + 1 := List.length_append
      have happend : (earlier ++ [v]) ++ vs = earlier ++ v :: vs := (List.append_cons ..).symm
      rw [← hlength, ← happend]
      refine ih fun i hi => ?_
      rw [happend]
      rcases Nat.lt_succ_iff_lt_or_eq.1 (hlength ▸ hi) with hlt | rfl
      · exact h i hlt
      · exact mt repeatedAt_length.1 hany

/-- **What is named is the first repeated position.** -/
lemma firstRepeated_eq_some :
    firstRepeated [] 0 items = some j ↔ IsLeast {j | RepeatedAt items j} j :=
  firstRepeated_from items fun _ hi => absurd hi (Nat.not_lt_zero _)

/-- Nothing is named if no position is repeated. -/
lemma firstRepeated_eq_none_iff : firstRepeated [] 0 items = none ↔ ∀ j, ¬RepeatedAt items j := by
  constructor
  · intro hnone j hj
    classical
    have hleast : IsLeast {j | RepeatedAt items j} (Nat.find ⟨j, hj⟩) :=
      ⟨Nat.find_spec ⟨j, hj⟩, fun i hi => Nat.find_min' ⟨j, hj⟩ hi⟩
    rw [firstRepeated_eq_some.2 hleast] at hnone
    cases hnone
  · intro hall
    rw [Option.eq_none_iff_forall_ne_some]
    exact fun j hj => hall j (firstRepeated_eq_some.1 hj).1

end Validation

/-! ## The order of items -/

namespace Conformance

/-- **Plain items are distinct in any order.**

**Proof sketch.** Equality is symmetric on plain values, though perhaps not on others. So it is the
relation that plain values are apart, and it alone, that is carried over to the other order. -/
lemma areDistinct_perm {items items' : List Value} (h : items.Perm items')
    (hplain : ∀ w ∈ items, w.IsPlain) : areDistinct items = areDistinct items' := by
  have hapart : ∀ list : List Value, (∀ w ∈ list, w.IsPlain) → (areDistinct list = true ↔
      list.Pairwise fun v w => v.IsPlain → w.IsPlain → w.jsonEqual v = false) := by
    intro list hlist
    rw [areDistinct, decide_eq_true_eq]
    exact List.Pairwise.iff_of_mem fun {v w} hv hw => by simp [hlist v hv, hlist w hw]
  rw [Bool.eq_iff_iff, hapart items hplain, hapart items' fun w hw => hplain w (h.mem_iff.2 hw)]
  refine h.pairwise_iff fun {v w} hvw hw hv => ?_
  rw [hv.jsonEqual_comm hw]
  exact hvw hv hw

end Conformance

/-! ## Schemas that ask for distinct items -/

/-- The schema that asks that no items are repeated, and at most for a type besides. -/
def Keywords.distinctItems (type : Option TypeName) : Schema where
  type := type
  uniqueItems := .bool true

section

variable {v : Value} {items : List Value} {type : Option TypeName} {path : Path}

/-- Of an array, a schema that asks for distinct items checks that they are. -/
lemma Validation.checkKeywords_distinctItems {child : NodeChecker} (hitems : v.items? = some items)
    (htype : type = none ∨ type = some .array) :
    checkKeywords child (.distinctItems type) v path =
      .ok (checkUnique (.distinctItems type) items path) := by
  have harray : checkArray child (.distinctItems type) v path =
      .ok (checkUnique (.distinctItems type) items path) := by
    rw [checkArray, hitems]
    rfl
  have hothers : checkType (.distinctItems type) v path = [] ∧
      checkScalar (.distinctItems type) v path = .ok [] ∧
      checkObject child (.distinctItems type) v path = .ok [] := by
    rcases htype with rfl | rfl <;> cases v <;> first | exact ⟨rfl, rfl, rfl⟩ | cases hitems
  obtain ⟨hnone, hscalar, hobject⟩ := hothers
  rw [checkKeywords, hscalar, hobject, harray, hnone]
  exact congrArg Except.ok (List.append_nil _)

/-- A schema that asks for distinct items reports the first that is repeated. -/
lemma validate_distinctItems (hitems : v.items? = some items)
    (htype : type = none ∨ type = some .array) (registry : Registry) {limit : Int}
    (hlimit : 0 < limit) :
    validate registry (.schema (.distinctItems type)) v limit =
      .ok (match Validation.firstRepeated [] 0 items with
        | some j => [⟨.constraintViolation, Validation.repeatedMessage j, []⟩]
        | none => []) := by
  obtain ⟨depth, hdepth⟩ : ∃ depth, limit.toNat = depth + 1 := ⟨limit.toNat - 1, by omega⟩
  have hnull : v.isNull = false := by cases v <;> first | rfl | cases hitems
  rw [validate, hdepth, Validation.checkNode_schema hnull,
    Validation.checkKeywords_distinctItems hitems htype]
  rfl

/-- A schema that asks for an array of distinct items casts an array by looking for repeated items
alone. -/
lemma Casting.castArray_distinctItems {child : NodeCaster} {active : List String}
    (hitems : v.items? = some items) :
    castArray child (.distinctItems (some .array)) v path active =
      match Validation.firstRepeated [] 0 items with
      | some j => failCast (Validation.repeatedMessage j) path
      | none => pure (.list items) := by
  have hbind : castArray child (.distinctItems (some .array)) v path active =
      (requireUnique (.distinctItems (some .array)) items path >>= fun _ =>
        pure (.list items)) := by
    rw [castArray, hitems]
    rfl
  rw [hbind, requireUnique]
  cases Validation.firstRepeated [] 0 items <;> rfl

/-- A cast to an array of distinct items fails at the first that is repeated, and makes a list of
distinct ones. -/
lemma cast_distinctItems (hitems : v.items? = some items) {context : CastContext}
    (hlimit : 0 < context.limit) :
    (cast context (.schema (.distinctItems (some .array))) v).outcome =
      .ok (match Validation.firstRepeated [] 0 items with
        | some j => .failed [⟨.castError, Validation.repeatedMessage j, []⟩]
        | none => .ok (.list items)) := by
  obtain ⟨depth, hdepth⟩ : ∃ depth, context.limit.toNat = depth + 1 :=
    ⟨context.limit.toNat - 1, by omega⟩
  have hnode : Casting.castNode context (depth + 1) (.schema (.distinctItems (some .array))) v []
      [] = Casting.castComposed context (Casting.castNode context depth)
        (Validation.checkNode context.registry context.limit depth) (.distinctItems (some .array)) v
        [] [] := by
    cases v <;> rfl
  have hown : ∀ child, Casting.castOwn child (.distinctItems (some .array)) v [] [] =
      Casting.castArray child (.distinctItems (some .array)) v [] [] := fun _ => rfl
  unfold cast
  rw [hdepth, hnode, Casting.castComposed, hown, Casting.castArray_distinctItems hitems]
  cases Validation.firstRepeated [] 0 items <;> rfl

open Value in
/-- **The first repeated item is reported**, and nothing else. If no two positions hold equal items,
a check of distinct items finds nothing and a cast makes the list of the items. If two do, the check
finds one violated constraint and the cast fails, and both name the least position whose item equals
an earlier one. Whether the check finds something is the same for the items in any other order, as a
list or as a tuple.

**Proof sketch.** Both look for the first repeated position. There is none exactly if no two
positions hold equal items, by symmetry, and then the items are distinct in any order. -/
theorem repeatedItem_reported (hitems : v.items? = some items) (hplain : ∀ w ∈ items, w.IsPlain)
    (htype : type = none ∨ type = some .array) (registry : Registry) {limit : Int}
    (hlimit : 0 < limit) {context : CastContext} (hcontext : 0 < context.limit) :
    ((∀ i j, i ≠ j → ¬EqualAt items i j) ∧
          validate registry (.schema (.distinctItems type)) v limit = .ok [] ∧
          (cast context (.schema (.distinctItems (some .array))) v).outcome =
            .ok (.ok (.list items)) ∨
        ∃ j, IsLeast {j | ∃ i < j, EqualAt items j i} j ∧
          validate registry (.schema (.distinctItems type)) v limit =
            .ok [⟨.constraintViolation, Validation.repeatedMessage j, []⟩] ∧
          (cast context (.schema (.distinctItems (some .array))) v).outcome =
            .ok (.failed [⟨.castError, Validation.repeatedMessage j, []⟩])) ∧
      ∀ w items', w.items? = some items' → items.Perm items' →
        (validate registry (.schema (.distinctItems type)) w limit = .ok [] ↔
          validate registry (.schema (.distinctItems type)) v limit = .ok []) := by
  have hvalid : ∀ w items', w.items? = some items' →
      (validate registry (.schema (.distinctItems type)) w limit = .ok [] ↔
        Conformance.areDistinct items' = true) := by
    intro w items' hitems'
    have hnone : Validation.firstRepeated [] 0 items' = none ↔
        Conformance.areDistinct items' = true := by
      simp [Conformance.firstRepeated_eq_none]
    rw [validate_distinctItems hitems' htype registry hlimit, ← hnone]
    cases Validation.firstRepeated [] 0 items' <;> simp
  refine ⟨?_, fun w items' hitems' hperm => ?_⟩
  · rw [validate_distinctItems hitems htype registry hlimit, cast_distinctItems hitems hcontext]
    cases hfirst : Validation.firstRepeated [] 0 items with
    | none =>
      refine .inl ⟨fun i j hne h => ?_, rfl, rfl⟩
      obtain ⟨k, hk⟩ := (exists_repeatedAt hplain).2 ⟨i, j, hne, h⟩
      exact Validation.firstRepeated_eq_none_iff.1 hfirst k hk
    | some j => exact .inr ⟨j, Validation.firstRepeated_eq_some.1 hfirst, rfl, rfl⟩
  · rw [hvalid w items' hitems', hvalid v items hitems,
      Conformance.areDistinct_perm hperm hplain]

end

/-- A number, a truth value, the number as a double, and a list. -/
def mixedItems : List Value :=
  [.int 1, .bool true, .float (.ofInt 1), .list [.int 1]]

open Value in
/-- Of a number, a truth value and the number as a double, the third is reported as repeated. It is
still reported that items are repeated if the tuple is turned round into a list. -/
theorem mixedItems_reported :
    validate ⟨[]⟩ (.schema (.distinctItems none)) (.tuple mixedItems) 64 =
        .ok [⟨.constraintViolation, Validation.repeatedMessage 2, []⟩] ∧
      (cast ⟨⟨[]⟩, .generic, 64⟩ (.schema (.distinctItems (some .array)))
          (.tuple mixedItems)).outcome =
        .ok (.failed [⟨.castError, Validation.repeatedMessage 2, []⟩]) ∧
      validate ⟨[]⟩ (.schema (.distinctItems none)) (.list mixedItems.reverse) 64 ≠ .ok [] := by
  have hfloat : (Value.float (.ofInt 1)).IsPlain := .float (by decide +kernel)
  have hlist : (Value.list [.int 1]).IsPlain := .array rfl (by simp [IsPlain.int])
  have hplain : ∀ w ∈ mixedItems, w.IsPlain := by
    simp [mixedItems, hfloat, hlist, IsPlain.int, IsPlain.bool]
  have hequal : EqualAt mixedItems 2 0 := by decide +kernel
  have hlimit : 0 < (⟨⟨[]⟩, .generic, 64⟩ : CastContext).limit := by decide
  obtain ⟨hreport, horder⟩ := repeatedItem_reported (v := .tuple mixedItems) rfl hplain (.inl rfl)
    ⟨[]⟩ (by decide : (0 : Int) < 64) hlimit
  rcases hreport with ⟨hapart, -⟩ | ⟨j, hleast, hvalidate, hcast⟩
  · exact absurd hequal (hapart 2 0 (by decide))
  · have htwo : IsLeast {j | ∃ i < j, EqualAt mixedItems j i} 2 := by
      refine ⟨⟨0, by decide, hequal⟩, fun k hk => Nat.le_of_not_lt fun hlt => ?_⟩
      have hfew : ∀ k < 2, ¬∃ i < k, EqualAt mixedItems k i := by decide +kernel
      exact hfew k hlt hk
    obtain rfl := hleast.unique htwo
    refine ⟨hvalidate, hcast, fun hnone => ?_⟩
    rw [(horder (.list mixedItems.reverse) _ rfl (List.reverse_perm _).symm).1 hnone] at hvalidate
    cases hvalidate

end DataSchema
