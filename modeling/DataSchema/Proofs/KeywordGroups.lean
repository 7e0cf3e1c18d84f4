import DataSchema.Proofs.Aliases
import DataSchema.Proofs.DepthGuard

set_option autoImplicit false

/-!
# Groups of keywords

The keywords of a schema fall into groups that are checked apart: no group looks at a keyword of
another. A schema therefore asks of a value what all its pieces ask that have the keywords of one
group each, and it can be split into a composition of these, which takes one step down more. The
issues are the same but for their order, and the depth guard stops both checks or neither.

## Main definitions

* `DataSchema.KeywordGroup` — the groups of keywords.
* `DataSchema.KeywordGroup.piece`, `DataSchema.Keywords.split` — the pieces of a schema, and what
  they are composed to.
* `DataSchema.ReportAlike`, `DataSchema.SameReport` — checks that come to the same.

## Main results

* `DataSchema.KeywordGroup.check_piece`, `DataSchema.KeywordGroup.check_piece_of_ne` — a group reads
  its own keywords and no others.
* `DataSchema.Validation.checkKeywords_groups` — all keywords are checked group by group.
* `DataSchema.validate_split` — a schema and its pieces, for whole values.
-/

namespace DataSchema

/-- The groups of keywords that are checked apart. -/
inductive KeywordGroup
  /-- The type and the format. -/
  | type
  /-- The values that are allowed. -/
  | enum
  /-- The length of a text and its pattern. -/
  | text
  /-- The bounds of a number and what it is a multiple of. -/
  | number
  /-- The properties of an object. -/
  | object
  /-- The items of an array. -/
  | array
  /-- What all conforms. -/
  | allOf
  /-- Of what at least one conforms. -/
  | anyOf
  /-- Of what exactly one conforms. -/
  | oneOf
  /-- What does not conform. -/
  | notSchema
  deriving DecidableEq

namespace KeywordGroup

open Validation

/-- All groups. -/
def all : List KeywordGroup :=
  [type, enum, text, number, object, array, allOf, anyOf, oneOf, notSchema]

/-- The schema that has the keywords of one group and no others. -/
def piece (s : Schema) : KeywordGroup → Schema
  | type => { type := s.type, format := s.format }
  | enum => { enum := s.enum }
  | text => { minLength := s.minLength, maxLength := s.maxLength, pattern := s.pattern }
  | number =>
    { minimum := s.minimum
      maximum := s.maximum
      exclusiveMinimum := s.exclusiveMinimum
      exclusiveMaximum := s.exclusiveMaximum
      multipleOf := s.multipleOf }
  | object =>
    { properties := s.properties
      required := s.required
      additional := s.additional
      minProperties := s.minProperties
      maxProperties := s.maxProperties }
  | array =>
    { items := s.items
      minItems := s.minItems
      maxItems := s.maxItems
      uniqueItems := s.uniqueItems }
  | allOf => { allOf := s.allOf }
  | anyOf => { anyOf := s.anyOf }
  | oneOf => { oneOf := s.oneOf }
  | notSchema => { notSchema := s.notSchema }

/-- The check of one group of keywords. -/
def check (child : NodeChecker) (s : Schema) (v : Value) (path : Path) : KeywordGroup → Check
  | type => (checkFormatKeyword s v path).map (checkType s v path ++ ·)
  | enum => .ok (checkEnum s v path)
  | text => textIssues s v path
  | number => numberIssues s v path
  | object => checkObject child s v path
  | array => checkArray child s v path
  | allOf => gather s.allOfList fun node => child node v path
  | anyOf => checkAnyOf child s v path
  | oneOf => checkOneOf child s v path
  | notSchema => checkNot child s v path

variable {child : NodeChecker} {s : Schema} {v : Value} {path : Path} {g h : KeywordGroup}

/-! ## Each group on its own -/

/-- The check of a group looks at the keywords of the group only. -/
lemma check_piece (g : KeywordGroup) :
    g.check child (g.piece s) v path = g.check child s v path := by
  cases g <;> rfl

/-- The piece of one group has no keywords of another. -/
lemma piece_piece (hne : g ≠ h) : g.piece (h.piece s) = g.piece {} := by
  cases g <;> cases h <;> first | exact absurd rfl hne | rfl

/-- A group finds nothing in any value if its keywords are absent. -/
lemma check_absent (g : KeywordGroup) : g.check child {} v path = .ok [] := by
  cases g with
  | text => cases v <;> rfl
  | number =>
    unfold check numberIssues
    cases v.number? <;> rfl
  | object =>
    unfold check checkObject
    cases v.objectView? ({} : Schema).required <;> rfl
  | array =>
    unfold check checkArray
    cases v.items? <;> rfl
  | _ => rfl

/-- **No group looks at the keywords of another**: it finds nothing in the piece of another. -/
lemma check_piece_of_ne (hne : g ≠ h) : g.check child (h.piece s) v path = .ok [] := by
  rw [← check_piece, piece_piece hne, check_piece, check_absent]

end KeywordGroup

/-- The composition of all pieces of a schema. -/
def Keywords.split (s : Schema) : Schema where
  allOf := some (KeywordGroup.all.map fun g => .schema (g.piece s))

/-! ## Checks that come to the same -/

/-- Two checks find the same issues, in some order, or both are stopped, and by the depth guard both
or neither. -/
inductive ReportAlike : Check → Check → Prop
  /-- Both find the same issues. -/
  | issues {is js : List Issue} : is.Perm js → ReportAlike (.ok is) (.ok js)
  /-- Both are stopped. -/
  | fault {f g : Fault} : f.isTooDeep = g.isTooDeep → ReportAlike (.error f) (.error g)

/-- Two checks come to the same report: both find the same issues, in some order, or the depth guard
stops both. -/
def SameReport (x y : Check) : Prop :=
  (∃ is js, x = .ok is ∧ y = .ok js ∧ is.Perm js) ∨
    ∃ f g, x = .error f ∧ y = .error g ∧ f.isTooDeep = true ∧ g.isTooDeep = true

/-- What comes to a report does not escape. -/
lemma SameReport.escapes_eq_false {x y : Check} (h : SameReport x y) : escapes y = false := by
  rcases h with ⟨is, js, -, rfl, -⟩ | ⟨f, g, -, rfl, -, hg⟩
  · rfl
  · simp [escapes, hg]

namespace ReportAlike

variable {x y z : Check}

/-- A check comes to the same as itself. -/
lemma refl (x : Check) : ReportAlike x x := by
  cases x with
  | ok is => exact .issues (.refl is)
  | error f => exact .fault rfl

/-- To come to the same is passed on. -/
lemma trans (h : ReportAlike x y) (h' : ReportAlike y z) : ReportAlike x z := by
  cases h with
  | issues hperm =>
    cases h' with
    | issues hperm' => exact .issues (hperm.trans hperm')
  | fault hdeep =>
    cases h' with
    | fault hdeep' => exact .fault (hdeep.trans hdeep')

/-- To come to the same goes both ways. -/
lemma symm (h : ReportAlike x y) : ReportAlike y x := by
  cases h with
  | issues hperm => exact .issues hperm.symm
  | fault hdeep => exact .fault hdeep.symm

/-- Checks that end alike come to the same. -/
lemma of_endAlike (h : EndAlike x y) : ReportAlike x y := by
  rcases endAlike_iff.1 h with rfl | ⟨f, g, rfl, rfl, hf, hg⟩
  · exact refl x
  · exact .fault (hf.trans hg.symm)

/-- The same steps followed by checks that come to the same. -/
lemma bind_same {α : Type} {u : Except Fault α} {f g : α → Check}
    (h : ∀ a, ReportAlike (f a) (g a)) : ReportAlike (u >>= f) (u >>= g) := by
  cases u with
  | ok a => exact h a
  | error e => exact .fault rfl

/-- Checks of each of several things come to the same in all if they do for each. -/
lemma gather {ι : Type} {xs : List ι} {f g : ι → Check}
    (h : ∀ x ∈ xs, ReportAlike (f x) (g x)) :
    ReportAlike (Validation.gather xs f) (Validation.gather xs g) := by
  induction xs with
  | nil => exact refl _
  | cons x xs ih =>
    have hhead := h x List.mem_cons_self
    have htail := ih fun x' hx' => h x' (List.mem_cons_of_mem x hx')
    rw [Validation.gather_cons, Validation.gather_cons]
    generalize f x = first at hhead ⊢
    generalize g x = first' at hhead ⊢
    generalize Validation.gather xs f = others at htail ⊢
    generalize Validation.gather xs g = others' at htail ⊢
    cases hhead with
    | fault hdeep => exact .fault hdeep
    | issues hperm =>
      cases htail with
      | fault hdeep => exact .fault hdeep
      | issues hperm' => exact .issues (hperm.append hperm')

/-- Checks that come to the same come to the same report, unless they escape. -/
lemma sameReport_iff (h : ReportAlike x y) : SameReport x y ↔ escapes y = false := by
  refine ⟨SameReport.escapes_eq_false, fun hy => ?_⟩
  cases h with
  | issues hperm => exact .inl ⟨_, _, rfl, rfl, hperm⟩
  | @fault f g hdeep =>
    have hg : g.isTooDeep = true := by simpa [escapes] using hy
    exact .inr ⟨f, g, rfl, rfl, hdeep.trans hg, hg⟩

end ReportAlike

/-! ## All groups together -/

namespace Validation

open KeywordGroup

variable {child : NodeChecker} {s : Schema} {v : Value} {path : Path}

/-- The issues of all groups, in the order of keywords and group by group: only those of the format
move. -/
lemma issues_perm (type enum text number format rest : List Issue) :
    (type ++ enum ++ (text ++ number ++ format) ++ rest).Perm
      (type ++ format ++ (enum ++ (text ++ (number ++ rest)))) := by
  have hmove : (enum ++ text ++ number ++ format ++ rest).Perm
      (format ++ (enum ++ text ++ number) ++ rest) := List.perm_append_comm.append_right rest
  simpa only [List.append_assoc] using hmove.append_left type

/-- **Keywords are checked group by group.** The format is looked at before texts and numbers in one
case and after them in the other; whichever stops the check, it is not the depth guard. -/
lemma checkKeywords_groups :
    ReportAlike (checkKeywords child s v path)
      (gather KeywordGroup.all fun g => g.check child s v path) := by
  have htext := textIssues_withinDepth s v path
  have hnumber := numberIssues_withinDepth s v path
  have hformat := (checkFormat_withinDepth v s.format).map (formatIssues path)
  rw [← checkFormatKeyword_eq] at hformat
  unfold checkKeywords checkComposition
  rw [checkScalar_eq]
  simp only [KeywordGroup.all, gather_cons, gather_nil, KeywordGroup.check]
  generalize textIssues s v path = text at htext ⊢
  generalize numberIssues s v path = number at hnumber ⊢
  generalize checkFormatKeyword s v path = format at hformat ⊢
  rcases format with f | format
  · -- The format stops the second check, and the first unless a text or a number does so before.
    rcases text with e | text
    · exact .fault ((htext e rfl).trans (hformat f rfl).symm)
    · rcases number with e | number
      · exact .fault ((hnumber e rfl).trans (hformat f rfl).symm)
      · exact .fault rfl
  · rcases text with e | text
    · exact .fault rfl
    · rcases number with e | number
      · exact .fault rfl
      · simp only [Except.map, ← pure_eq_ok, bind_assoc, pure_bind]
        refine .bind_same fun object => .bind_same fun array => .bind_same fun members => ?_
        refine .bind_same fun any => .bind_same fun one => .bind_same fun no => .issues ?_
        have hperm := issues_perm (checkType s v path) (checkEnum s v path) text number format
          (object ++ array ++ (members ++ any ++ one ++ no))
        simpa only [List.append_assoc, List.append_nil] using hperm

/-- The piece of a group is checked like the group. -/
lemma checkKeywords_piece (g : KeywordGroup) :
    ReportAlike (checkKeywords child (g.piece s) v path) (g.check child s v path) := by
  refine checkKeywords_groups.trans ?_
  have hothers : ∀ h : KeywordGroup, h.check child (g.piece s) v path =
      if h = g then g.check child s v path else .ok [] := by
    intro h
    split
    next heq =>
      subst heq
      exact check_piece h
    next hne => exact check_piece_of_ne hne
  simp only [hothers]
  generalize g.check child s v path = found
  cases g <;> cases found with
  | ok is => exact .issues (by simp)
  | error f => exact .fault rfl

/-! ## Nodes -/

/-- A value that is not null is checked by all keywords of a schema. -/
lemma checkNode_schema (hv : v.isNull = false) (registry : Registry) (limit : Int) (depth : Nat) :
    checkNode registry limit (depth + 1) (.schema s) v path =
      checkKeywords (checkNode registry limit depth) s v path := by
  unfold checkNode checkResolved checkSchema
  dsimp only
  rw [hv, Bool.false_and, Bool.false_and, if_neg Bool.false_ne_true, if_neg Bool.false_ne_true]

/-- The pieces of a schema are checked like the schema, at the same depth. -/
lemma checkNode_pieces (hv : v.isNull = false) (registry : Registry) (limit : Int) (depth : Nat) :
    ReportAlike
      (gather KeywordGroup.all fun g => checkNode registry limit depth (.schema (g.piece s)) v path)
      (checkNode registry limit depth (.schema s) v path) := by
  cases depth with
  | zero => exact .fault rfl
  | succ depth =>
    simp only [checkNode_schema hv]
    refine (ReportAlike.gather fun g _ => checkKeywords_piece g).trans ?_
    exact checkKeywords_groups.symm

/-- The composition of the pieces is checked like the schema, one step further down. -/
lemma checkNode_split (hv : v.isNull = false) (registry : Registry) (limit : Int) (depth : Nat) :
    ReportAlike (checkNode registry limit (depth + 1) (.schema s.split) v path)
      (checkNode registry limit depth (.schema s) v path) := by
  rw [checkNode_schema hv]
  exact (checkKeywords_piece (s := s.split) .allOf).trans
    (checkNode_pieces hv registry limit depth)

end Validation

/-! ## Whole values -/

/-- **The groups of keywords are independent of each other**: a value that is not null is checked
against the composition of all pieces of a schema, within one step more, like against the schema.
The depth guard stops both checks or neither; if nothing else stops the check against the schema,
then nothing else stops the other, and both report the same issues, each as often.

**Proof sketch.** The composition of the pieces is itself a piece of a schema, with nothing but
members, so that its check is that of the pieces one after another, one step down. Of the groups that
check a piece all but one find nothing, and all groups together are the check of the schema. -/
theorem validate_split {s : Schema} {v : Value} (hv : v.isNull = false) (registry : Registry)
    (limit : Int) :
    ReportAlike (validate registry (.schema s.split) v (limit + 1))
        (validate registry (.schema s) v limit) ∧
      (SameReport (validate registry (.schema s.split) v (limit + 1))
          (validate registry (.schema s) v limit) ↔
        escapes (validate registry (.schema s) v limit) = false) := by
  have halike : ReportAlike (validate registry (.schema s.split) v (limit + 1))
      (validate registry (.schema s) v limit) := by
    unfold validate
    by_cases hlimit : 0 ≤ limit
    · have hdepth : (limit + 1).toNat = limit.toNat + 1 := by omega
      have hsame := Validation.checkNode_endAlike registry (limit + 1) limit limit.toNat
        (.schema s) v []
      rw [hdepth]
      exact (Validation.checkNode_split hv registry (limit + 1) limit.toNat).trans
        (.of_endAlike hsame)
    · have hdepth : (limit + 1).toNat = 0 := by omega
      have hdepth' : limit.toNat = 0 := by omega
      rw [hdepth, hdepth']
      exact .fault rfl
  exact ⟨halike, halike.sameReport_iff⟩

/-- A schema with keywords of several groups. -/
def shortWord : Schema where
  type := some .string
  enum := some [.str "yes", .str "no"]
  maxLength := .int 3
  anyOf := some [.schema { maxLength := .int 2 }, .schema { type := some .integer }]

/-- A word that is too long and not among those allowed is reported for both, and for what none of
the alternatives takes, by the pieces of the schema as by the schema. -/
theorem shortWord_split :
    SameReport (validate ⟨[]⟩ (.schema shortWord.split) (.str "maybe") (2 + 1))
      (validate ⟨[]⟩ (.schema shortWord) (.str "maybe") 2) ∧
    ∃ is, validate ⟨[]⟩ (.schema shortWord) (.str "maybe") 2 = .ok is ∧
      is.map Issue.kind = [.notInEnum, .constraintViolation, .noneMatched] := by
  have hsplit := validate_split (s := shortWord) (v := .str "maybe") rfl ⟨[]⟩ 2
  exact ⟨hsplit.2.2 (by decide +kernel), exists_ok_of_kinds (by decide +kernel)⟩

/-- A timestamp that stops the check against its schema stops the check against the pieces: neither
comes to a report, and it is not the depth guard that stops them. -/
theorem timestamp_split_escapes :
    (Value.str "0001-01-01T00:00:00+01:00").isNull = false ∧
    ¬SameReport
      (validate ⟨[]⟩ (.schema (Keywords.split { type := some .string, format := .str "date-time" }))
        (.str "0001-01-01T00:00:00+01:00") (64 + 1))
      (validate ⟨[]⟩ (.schema { type := some .string, format := .str "date-time" })
        (.str "0001-01-01T00:00:00+01:00") 64) := by
  refine ⟨rfl, fun hsame => ?_⟩
  have hescapes : escapes (validate ⟨[]⟩
      (.schema { type := some .string, format := .str "date-time" })
      (.str "0001-01-01T00:00:00+01:00") 64) = true := by decide +kernel
  rw [hsame.escapes_eq_false] at hescapes
  cases hescapes

end DataSchema
