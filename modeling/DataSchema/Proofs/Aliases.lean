import Mathlib.Tactic.IntervalCases
import DataSchema.Proofs.DepthStability

set_option autoImplicit false

/-!
# Aliases

A name may be bound to a reference to another name, and so on. Each such alias takes one step down
and nothing else: a chain of aliases is checked and cast like what it ends with, it reports a missing
name where it ends with one, and where it never ends it stops at the depth guard, whatever the
value.

## Main definitions

* `DataSchema.Registry.Aliases` — names that are bound to references, each to the next.
* `DataSchema.SameVerdict` — evaluations with the same result, or both stopped by the depth guard.
* `DataSchema.EndAlike` — evaluations that have the same verdict unless they escape alike.

## Main results

* `DataSchema.Validation.checkNode_aliases`, `DataSchema.Casting.castNode_aliases` — chains of
  aliases, step by step.
* `DataSchema.aliases_checked_and_cast` — chains of aliases of every length, and endless ones.
-/

namespace DataSchema

/-- Each of the first names is bound to a reference to the name after it. -/
def Registry.Aliases (registry : Registry) (names : Nat → String) (count : Nat) : Prop :=
  ∀ i < count, registry.get? (names i) = some (.ref (names (i + 1)))

/-- The first of some aliases are aliases. -/
lemma Registry.Aliases.of_succ {registry : Registry} {names : Nat → String} {count : Nat}
    (h : registry.Aliases names (count + 1)) : registry.Aliases names count :=
  fun i hi => h i (Nat.lt_succ_of_lt hi)

/-! ## Verdicts -/

/-- Two evaluations have the same result, or the depth guard stops both. -/
def SameVerdict {α : Type} (x y : Except Fault α) : Prop :=
  (∃ a, x = .ok a ∧ y = .ok a) ∨
    ∃ f g, x = .error f ∧ y = .error g ∧ f.isTooDeep = true ∧ g.isTooDeep = true

/-- What has a verdict does not escape. -/
lemma SameVerdict.escapes_eq_false {α : Type} {x y : Except Fault α} (h : SameVerdict x y) :
    escapes y = false := by
  rcases h with ⟨a, -, rfl⟩ | ⟨f, g, -, rfl, -, hg⟩
  · rfl
  · simp [escapes, hg]

/-- An evaluation has the same verdict as itself unless it escapes. -/
lemma sameVerdict_self {α : Type} {x : Except Fault α} : SameVerdict x x ↔ escapes x = false := by
  cases x with
  | ok a => exact ⟨fun _ => rfl, fun _ => .inl ⟨a, rfl, rfl⟩⟩
  | error f => cases hf : f.isTooDeep <;> simp [SameVerdict, escapes, hf]

/-- What is not within the depth guard is stopped by it. -/
lemma exists_tooDeep {α : Type} {x : Except Fault α} (h : ¬WithinDepth x) :
    ∃ f, x = .error f ∧ f.isTooDeep = true := by
  by_contra hnone
  refine h fun f hf => eq_false_of_ne_true fun hdeep => ?_
  exact hnone ⟨f, hf, hdeep⟩

/-- Evaluations end alike: they have the same verdict exactly where the second does not escape, and
where it does, they stop for the same reason. -/
structure EndAlike {α : Type} (x y : Except Fault α) : Prop where
  /-- The verdict is the same, unless the second evaluation escapes. -/
  sameVerdict_iff : SameVerdict x y ↔ escapes y = false
  /-- Where the second evaluation escapes, both stop for the same reason. -/
  eq_of_escapes : escapes y = true → x = y

/-- Evaluations end alike when they are equal, or the depth guard stops both. -/
lemma endAlike_iff {α : Type} {x y : Except Fault α} :
    EndAlike x y ↔ x = y ∨
      ∃ f g, x = .error f ∧ y = .error g ∧ f.isTooDeep = true ∧ g.isTooDeep = true := by
  constructor
  · intro h
    cases hy : escapes y with
    | true => exact .inl (h.eq_of_escapes hy)
    | false =>
      rcases h.sameVerdict_iff.2 hy with ⟨a, rfl, rfl⟩ | hdeep
      · exact .inl rfl
      · exact .inr hdeep
  · rintro (rfl | ⟨f, g, rfl, rfl, hf, hg⟩)
    · exact ⟨sameVerdict_self, fun _ => rfl⟩
    · constructor <;> simp [SameVerdict, escapes, hf, hg]

/-- Evaluations that are equal where one of them is within the depth guard end alike. -/
lemma endAlike_of_within {α : Type} {x y : Except Fault α} (hxy : WithinDepth x → y = x)
    (hyx : WithinDepth y → x = y) : EndAlike x y := by
  rw [endAlike_iff]
  by_cases hwithin : WithinDepth x ∨ WithinDepth y
  · exact .inl (hwithin.elim (fun h => (hxy h).symm) hyx)
  · rw [not_or] at hwithin
    obtain ⟨f, hx, hf⟩ := exists_tooDeep hwithin.1
    obtain ⟨g, hy, hg⟩ := exists_tooDeep hwithin.2
    exact .inr ⟨f, g, hx, hy, hf, hg⟩

/-! ## Checks -/

namespace Validation

variable {registry : Registry} {limit : Int} {names : Nat → String} {count : Nat}

/-- **A chain of aliases is checked like its last name**, with as many steps less. -/
lemma checkNode_aliases (h : registry.Aliases names count) (depth : Nat) (v : Value)
    (path : Path) :
    checkNode registry limit (depth + count) (.ref (names 0)) v path =
      checkNode registry limit depth (.ref (names count)) v path := by
  induction count generalizing depth with
  | zero => rfl
  | succ count ih =>
    have hdepth : depth + (count + 1) = depth + 1 + count := by omega
    rw [hdepth, ih h.of_succ, checkNode_link (h count (Nat.lt_succ_self count))]

/-- The limit makes no difference to a check but in what the depth guard reports. -/
lemma checkNode_endAlike (registry : Registry) (limit limit' : Int) (depth : Nat) (node : Node)
    (v : Value) (path : Path) :
    EndAlike (checkNode registry limit depth node v path)
      (checkNode registry limit' depth node v path) :=
  endAlike_of_within (checkNode_stable (Nat.le_refl depth)) (checkNode_stable (Nat.le_refl depth))

/-- An alias of a missing name is not found. -/
lemma checkNode_missing {name absent : String}
    (hget : registry.get? name = some (.ref absent)) (habsent : registry.get? absent = none)
    (depth : Nat) (v : Value) (path : Path) :
    checkNode registry limit (depth + 2) (.ref name) v path =
      .ok [⟨.schemaNotFound, Registry.notFoundMessage absent, path⟩] := by
  rw [checkNode_link hget, checkNode_unknown habsent]

/-- Checks of a name by aliases without end stop at the depth guard. -/
lemma checkNode_endless (h : ∀ count, registry.Aliases names count) (depth : Nat) (v : Value)
    (path : Path) :
    checkNode registry limit depth (.ref (names 0)) v path = .error (.tooDeep limit path) := by
  have haliases : checkNode registry limit (0 + depth) (.ref (names 0)) v path =
      checkNode registry limit 0 (.ref (names depth)) v path := checkNode_aliases (h depth) 0 v path
  rw [Nat.zero_add] at haliases
  rw [haliases]
  rfl

end Validation

/-! ## Casts -/

namespace Casting

variable (context : CastContext) {names : Nat → String} {count : Nat}

/-- **A chain of aliases casts like its last name**, with as many steps less, and with its other
names open. -/
lemma castNode_aliases (h : context.registry.Aliases names count) (depth : Nat) (v : Value)
    (path : Path) (active : List String) :
    ∃ active', castNode context (depth + count) (.ref (names 0)) v path active =
      castNode context depth (.ref (names count)) v path active' := by
  induction count generalizing depth with
  | zero => exact ⟨active, rfl⟩
  | succ count ih =>
    have hdepth : depth + (count + 1) = depth + 1 + count := by omega
    obtain ⟨active', heq⟩ := ih h.of_succ (depth + 1)
    refine ⟨names count :: active', ?_⟩
    rw [hdepth, heq, castNode_link (h count (Nat.lt_succ_self count))]

/-- An alias of a missing name is not found. -/
lemma castNode_missing {name absent : String}
    (hget : context.registry.get? name = some (.ref absent))
    (habsent : context.registry.get? absent = none) (depth : Nat) (v : Value) (path : Path)
    (active : List String) :
    castNode context (depth + 2) (.ref name) v path active =
      fail .schemaNotFound (Registry.notFoundMessage absent) path := by
  rw [castNode_link hget, castNode_unknown habsent]

/-- Casts by aliases without end stop at the depth guard. -/
lemma castNode_endless (h : ∀ count, context.registry.Aliases names count) (depth : Nat)
    (v : Value) (path : Path) (active : List String) :
    castNode context depth (.ref (names 0)) v path active =
      stop (.tooDeep context.limit path) := by
  obtain ⟨active', haliases⟩ := castNode_aliases context (h depth) 0 v path active
  rw [Nat.zero_add] at haliases
  rw [haliases]
  rfl

end Casting

/-! ## Whole values -/

section

variable {registry : Registry} {names : Nat → String} {count : Nat}

/-- A value is checked against a chain of aliases of a schema, with one step more for each of them,
as against the schema. -/
lemma validate_aliases (h : registry.Aliases names count) {s : Schema}
    (hget : registry.get? (names count) = some (.schema s)) (v : Value) (limit : Nat) :
    EndAlike (validate registry (.ref (names 0)) v (limit + count : Nat))
      (validate registry (.schema s) v limit) := by
  have hfirst : validate registry (.ref (names 0)) v (limit + count : Nat) =
      Validation.checkNode registry (limit + count : Nat) limit (.schema s) v [] := by
    unfold validate
    rw [Int.toNat_natCast, Validation.checkNode_aliases h, Validation.checkNode_named hget]
  rw [hfirst]
  exact Validation.checkNode_endAlike registry _ _ limit _ v []

/-- A value is cast by a chain of aliases of a schema, with one step more for each of them, as by
the schema, if nothing is selected on the way. -/
lemma cast_aliases (h : registry.Aliases names count) {s : Schema}
    (hget : registry.get? (names count) = some (.schema s))
    (hselects : registry.SelectsNothing (.schema s)) (types : TypeMap) (v : Value) (limit : Nat) :
    EndAlike (cast ⟨registry, types, (limit + count : Nat)⟩ (.ref (names 0)) v).outcome
      (cast ⟨registry, types, limit⟩ (.schema s) v).outcome := by
  have hsame : ∀ {limit₁ limit₂ : Int} {names₁ names₂ : List String},
      Casting.CastWithinDepth
        (Casting.castNode ⟨registry, types, limit₁⟩ limit (.schema s) v [] names₁) →
      (Casting.castNode ⟨registry, types, limit₂⟩ limit (.schema s) v [] names₂).outcome =
        (Casting.castNode ⟨registry, types, limit₁⟩ limit (.schema s) v [] names₁).outcome := by
    intro limit₁ limit₂ names₁ names₂ hwithin
    have hcast : (Leeway.deeper [] []).CastAt
        (Casting.castNode ⟨registry, types, limit₁⟩ limit)
        (Casting.castNode ⟨registry, types, limit₂⟩ limit) names₁ names₂ (.schema s) := by
      apply Casting.castNode_unselecting
      · rfl
      · rfl
      · exact Nat.le_refl limit
      · exact .inr hselects
    exact (hcast v [] [] ⟨[], rfl, rfl⟩).outcome_eq_of_within hwithin
  obtain ⟨active, hfirst⟩ : ∃ active, Casting.castNode ⟨registry, types, (limit + count : Nat)⟩
      (limit + count) (.ref (names 0)) v [] [] =
        Casting.castNode ⟨registry, types, (limit + count : Nat)⟩ limit (.schema s) v [] active := by
    obtain ⟨active, heq⟩ := Casting.castNode_aliases ⟨registry, types, (limit + count : Nat)⟩ h
      limit v [] []
    exact ⟨_, heq.trans (Casting.castNode_named hget limit v [] active)⟩
  refine endAlike_of_within (fun hwithin => ?_) fun hwithin => ?_
  · rw [withinDepth_cast] at hwithin
    refine cast_outcome_congr ?_
    dsimp only [Int.toNat_natCast] at hwithin ⊢
    rw [hfirst] at hwithin ⊢
    exact hsame hwithin
  · rw [withinDepth_cast] at hwithin
    refine cast_outcome_congr ?_
    dsimp only [Int.toNat_natCast] at hwithin ⊢
    rw [hfirst]
    exact hsame hwithin

/-- A value is neither checked nor cast by a chain of aliases of a missing name. -/
lemma aliases_missing (h : registry.Aliases names count) {absent : String}
    (hget : registry.get? (names count) = some (.ref absent))
    (habsent : registry.get? absent = none) (types : TypeMap) (v : Value) {limit : Int}
    (hlimit : count + 2 ≤ limit) :
    validate registry (.ref (names 0)) v limit =
        .ok [⟨.schemaNotFound, Registry.notFoundMessage absent, []⟩] ∧
      (cast ⟨registry, types, limit⟩ (.ref (names 0)) v).outcome =
        .ok (.failed [⟨.schemaNotFound, Registry.notFoundMessage absent, []⟩]) := by
  obtain ⟨depth, hdepth⟩ : ∃ depth, limit.toNat = depth + 2 + count :=
    ⟨limit.toNat - 2 - count, by omega⟩
  constructor
  · unfold validate
    rw [hdepth, Validation.checkNode_aliases h, Validation.checkNode_missing hget habsent]
  · obtain ⟨active, heq⟩ :=
      Casting.castNode_aliases ⟨registry, types, limit⟩ h (depth + 2) v [] []
    have hmissing := Casting.castNode_missing ⟨registry, types, limit⟩ hget habsent depth v [] active
    unfold cast
    dsimp only
    rw [hdepth, heq, hmissing]
    rfl

/-- Checks and casts by aliases without end stop at the depth guard, whatever the value and the
limit. -/
lemma aliases_endless (h : ∀ count, registry.Aliases names count) (types : TypeMap) (v : Value)
    (limit : Int) :
    validate registry (.ref (names 0)) v limit = .error (.tooDeep limit []) ∧
      (cast ⟨registry, types, limit⟩ (.ref (names 0)) v).outcome =
        .error (.tooDeep limit []) := by
  constructor
  · exact Validation.checkNode_endless h limit.toNat v []
  · unfold cast
    rw [Casting.castNode_endless ⟨registry, types, limit⟩ h]
    rfl

end

/-- **Aliases** take one step down each, and nothing else. Let each of the first names be bound to a
reference to the next. If the last one is bound to a schema, then checks against the first, within a
limit of so many steps more, end like checks against the schema, and so do casts if the schema leads
to no discriminator: with the same verdict, unless what stops the schema is not the depth guard. If
the last one is bound to a reference to a missing name, then that name is reported, at the root,
within every limit of two steps or more besides. And if the names go on without end, then the depth
guard stops every check and every cast. -/
theorem aliases_checked_and_cast {registry : Registry} {names : Nat → String} :
    (∀ count, registry.Aliases names count →
      (∀ s, registry.get? (names count) = some (.schema s) → ∀ v (limit : Nat),
        EndAlike (validate registry (.ref (names 0)) v (limit + count : Nat))
          (validate registry (.schema s) v limit) ∧
        (registry.SelectsNothing (.schema s) → ∀ types,
          EndAlike (cast ⟨registry, types, (limit + count : Nat)⟩ (.ref (names 0)) v).outcome
            (cast ⟨registry, types, limit⟩ (.schema s) v).outcome)) ∧
      ∀ absent, registry.get? (names count) = some (.ref absent) → registry.get? absent = none →
        ∀ types v (limit : Int), count + 2 ≤ limit →
          validate registry (.ref (names 0)) v limit =
              .ok [⟨.schemaNotFound, Registry.notFoundMessage absent, []⟩] ∧
            (cast ⟨registry, types, limit⟩ (.ref (names 0)) v).outcome =
              .ok (.failed [⟨.schemaNotFound, Registry.notFoundMessage absent, []⟩])) ∧
    ((∀ count, registry.Aliases names count) → ∀ types v limit,
      validate registry (.ref (names 0)) v limit = .error (.tooDeep limit []) ∧
        (cast ⟨registry, types, limit⟩ (.ref (names 0)) v).outcome =
          .error (.tooDeep limit [])) := by
  refine ⟨fun count h => ⟨fun s hget v limit => ?_, ?_⟩, ?_⟩
  · refine ⟨validate_aliases h hget v limit, fun hselects types => ?_⟩
    exact cast_aliases h hget hselects types v limit
  · intro absent hget habsent types v limit hlimit
    exact aliases_missing h hget habsent types v hlimit
  · intro h types v limit
    exact aliases_endless h types v limit

/-- Names that stand for others: two of them for a schema, one for a name that is missing, and two
for each other. -/
def shortcuts : Registry := ⟨[("First", .ref "Second"), ("Second", .ref "Third"),
  ("Third", .schema { type := some .integer }), ("Lost", .ref "Missing"), ("Left", .ref "Right"),
  ("Right", .ref "Left")]⟩

/-- The names on the way from one side to the other and back. -/
def side (i : Nat) : String := if i % 2 = 0 then "Left" else "Right"

/-- The two sides stand for each other without end. -/
lemma side_aliases (count : Nat) : shortcuts.Aliases side count := by
  intro i _
  unfold side
  rcases Nat.mod_two_eq_zero_or_one i with h | h
  · rw [if_pos h, if_neg (by omega)]
    rfl
  · rw [if_neg (by omega), if_pos (by omega)]
    rfl

/-- Shortcuts to a schema are followed, one to a missing name is reported, and those that lead to
each other stop at the depth guard. -/
theorem shortcuts_checked_and_cast :
    SameVerdict (validate shortcuts (.ref "First") (.str "3") (1 + 2 : Nat))
      (validate shortcuts (.schema { type := some .integer }) (.str "3") 1) ∧
    SameVerdict (cast ⟨shortcuts, .generic, (1 + 2 : Nat)⟩ (.ref "First") (.str "3")).outcome
      (cast ⟨shortcuts, .generic, 1⟩ (.schema { type := some .integer }) (.str "3")).outcome ∧
    validate shortcuts (.ref "Lost") .null 2 =
      .ok [⟨.schemaNotFound, Registry.notFoundMessage "Missing", []⟩] ∧
    validate shortcuts (.ref "Left") .null 64 = .error (.tooDeep 64 []) := by
  have hfirst : shortcuts.Aliases (["First", "Second", "Third"].getD · "") 2 := by
    intro i hi
    interval_cases i <;> rfl
  have hlost : shortcuts.Aliases (fun _ => "Lost") 0 := fun i hi => absurd hi (Nat.not_lt_zero i)
  have hselects : shortcuts.SelectsNothing (.schema { type := some .integer }) := by
    intro s h
    cases h with
    | here => rfl
    | child hc => cases hc
  obtain ⟨hcheck, hcast⟩ := (aliases_checked_and_cast.1 2 hfirst).1 _ rfl (.str "3") 1
  have hmissing := (aliases_checked_and_cast.1 0 hlost).2 "Missing" rfl rfl .generic .null 2
    (by decide)
  have hendless := aliases_checked_and_cast.2 side_aliases .generic .null 64
  refine ⟨hcheck.sameVerdict_iff.2 (by decide +kernel), ?_, hmissing.1, hendless.1⟩
  exact (hcast hselects .generic).sameVerdict_iff.2 (by decide +kernel)

/-- A schema for timestamps, and a name for it. -/
def timestamps : Registry := ⟨[("Time", .ref "Timestamp"),
  ("Timestamp", .schema { type := some .string, format := .str "date-time" })]⟩

/-- A timestamp that stops the check against its schema stops the check against an alias of it:
there is no verdict, and it is not the depth guard that stops them. -/
theorem time_escapes :
    timestamps.Aliases (["Time", "Timestamp"].getD · "") 1 ∧
    timestamps.get? "Timestamp" =
      some (.schema { type := some .string, format := .str "date-time" }) ∧
    ¬SameVerdict
      (validate timestamps (.ref "Time") (.str "0001-01-01T00:00:00+01:00") (64 + 1 : Nat))
      (validate timestamps (.schema { type := some .string, format := .str "date-time" })
        (.str "0001-01-01T00:00:00+01:00") 64) := by
  refine ⟨fun i hi => ?_, rfl, fun hsame => ?_⟩
  · interval_cases i
    rfl
  · have hescapes : escapes (validate timestamps
        (.schema { type := some .string, format := .str "date-time" })
        (.str "0001-01-01T00:00:00+01:00") 64) = true := by decide +kernel
    rw [hsame.escapes_eq_false] at hescapes
    cases hescapes

end DataSchema
