import DataSchema.Proofs.Keywords
import DataSchema.Proofs.NodeSteps

set_option autoImplicit false

/-!
# Conformance

Conformance of a value to a node as a yes or no, read off the rules for schemas one by one: no
locations, no issues, and conjunctions that stop at the first rule that is broken. The issues that
validation collects are none exactly when this evaluation says yes.

## Main definitions

* `DataSchema.Conformance.meetsSchema` — conformance to a schema, given conformance to its child
  nodes.
* `DataSchema.conforms` — conformance to a node, within a depth.

## Main results

* `DataSchema.Conformance.checkNode_eq_nil` — at every depth, checking a node finds nothing
  exactly when the value conforms to it.
* `DataSchema.validate_eq_nil_iff_conforms` — the same for a whole value.
-/

namespace DataSchema

/-- Decides whether a value conforms to a node. -/
abbrev NodeTest := Node → Value → Bool

namespace Conformance

/-! ## Types and enumerations -/

/-- The type rule: an object is a mapping or a record, an array a list or a tuple, a number is no
truth value, and a date stands for the text that a format of dates asks for. -/
def meetsType (s : Schema) (v : Value) : Bool :=
  match s.type, v with
  | some .object, v => v.isObject
  | some .array, v => v.isArray
  | some .string, .str _ => true
  | some .string, .dateTime _ => Validation.isTemporal s.format v
  | some .string, .date _ => Validation.isTemporal s.format v
  | some .integer, v => v.isInteger
  | some .number, v => v.isNumber
  | some .boolean, .bool _ => true
  | some .string, _ | some .boolean, _ => false
  | none, _ | some (.unknown _), _ => true

/-- The enumeration rule: the value is one of those that are allowed. -/
def meetsEnum (s : Schema) (v : Value) : Bool :=
  match s.enum with
  | some members => members.any v.jsonEqual
  | none => true

/-! ## Texts and numbers -/

/-- Whether a number is no less than a bound, if there is one. -/
def atLeast (n : Number) (bound : Value) : Bool :=
  match bound.operand? with
  | some b => !n.less b
  | none => true

/-- Whether a number is no greater than a bound, if there is one. -/
def noMoreThan (n : Number) (bound : Value) : Bool :=
  match bound.operand? with
  | some b => !b.less n
  | none => true

/-- Whether a pattern occurs in a text, if there is one. -/
def matchesPattern (pattern : Value) (text : String) : Bool :=
  match pattern with
  | .str p =>
    match CompiledPattern.ofText p with
    | .ok compiled => compiled.occursIn text
    | .error _ => false
  | _ => true

/-- The rules for texts: their length and the pattern that occurs in them. -/
def meetsText (s : Schema) (text : String) : Bool :=
  atLeast (.int text.length) s.minLength && noMoreThan (.int text.length) s.maxLength &&
    matchesPattern s.pattern text

/-- Whether a number is above the lower bound, or at it where it is included. -/
def aboveMinimum (s : Schema) (n : Number) : Bool :=
  match s.minimum.operand? with
  | some b => if s.exclusiveMinimum.isTruthy then !n.atMost b else !n.less b
  | none => true

/-- Whether a number is below the upper bound, or at it where it is included. -/
def belowMaximum (s : Schema) (n : Number) : Bool :=
  match s.maximum.operand? with
  | some b => if s.exclusiveMaximum.isTruthy then !b.atMost n else !b.less n
  | none => true

/-- Whether a number is a multiple of a divisor, if one is set. -/
def meetsMultiple (divisor : Value) (n : Number) : Bool :=
  !divisor.isTruthy ||
    match divisor.operand? with
    | some d =>
      match n.isMultiple d with
      | .ok multiple => multiple
      | .error _ => false
    | none => false

/-- The rules for numbers: their bounds and what they are a multiple of. -/
def meetsNumber (s : Schema) (n : Number) : Bool :=
  aboveMinimum s n && belowMaximum s n && meetsMultiple s.multipleOf n

/-- Whether a value conforms to a known format. Formats of texts say nothing of other values, and
formats of whole numbers nothing of what is no whole number. -/
def meetsKnown (format : KnownFormat) (v : Value) : Bool :=
  match format, v with
  | .dateTime, .str text => (Timestamp.parse text).toBool
  | .date, .str text => (parseDate (.str text)).toBool
  | .int32, .int n => fitsSigned 32 n
  | .int64, .int n => fitsSigned 64 n
  | .int32, _ | .int64, _ => true
  | format, .str text =>
    match textConforms format text with
    | .ok conforms => conforms
    | .error _ => false
  | _, _ => true

/-- The format rule: a format that is not known says nothing. -/
def meetsFormat (format v : Value) : Bool :=
  match format with
  | .str name =>
    match KnownFormat.ofName? name with
    | some known => meetsKnown known v
    | none => true
  | _ => true

/-- The rules for what is neither an object nor an array: those for texts, if it is one, those for
numbers, if it is one, and the format rule. -/
def meetsScalar (s : Schema) (v : Value) : Bool :=
  v.str?.all (meetsText s) && v.number?.all (meetsNumber s) && meetsFormat s.format v

/-! ## Objects and arrays -/

/-- The rule for properties that are not declared: they may be forbidden, or have to conform. -/
def meetsAdditional (child : NodeTest) (s : Schema) (data : Entries) : Bool :=
  match s.additional with
  | .unspecified | .flag true => true
  | .flag false => data.all fun e => s.declares e.1
  | .schema node => data.all fun e => s.declares e.1 || child node e.2

/-- The rules for the entries of an object: declared properties that are there conform, required
ones are there, the others are as the schema allows, and there are neither too few nor too many. -/
def meetsEntries (child : NodeTest) (s : Schema) (data : Entries) : Bool :=
  (s.declared.all fun p => (data.get? (.str p.1)).all (child p.2)) && s.required.all data.has &&
    meetsAdditional child s data && atLeast (.int data.length) s.minProperties &&
    noMoreThan (.int data.length) s.maxProperties

/-- The rules for objects; they say nothing of other values. -/
def meetsObject (child : NodeTest) (s : Schema) (v : Value) : Bool :=
  (v.objectView? s.required).all (meetsEntries child s)

/-- Whether no value of a list equals one before it. -/
def areDistinct (items : List Value) : Bool :=
  decide (items.Pairwise fun earlier later => later.jsonEqual earlier = false)

/-- The rules for items: they conform, there are neither too few nor too many, and no two are
equal where they must not be. -/
def meetsItems (child : NodeTest) (s : Schema) (items : List Value) : Bool :=
  (s.items.all fun node => items.all (child node)) && atLeast (.int items.length) s.minItems &&
    noMoreThan (.int items.length) s.maxItems && (!s.uniqueItems.isTruthy || areDistinct items)

/-- The rules for arrays; they say nothing of other values. -/
def meetsArray (child : NodeTest) (s : Schema) (v : Value) : Bool :=
  v.items?.all (meetsItems child s)

/-! ## Composition -/

/-- The rules for composition: all members conform, at least one of any, exactly one of one, and
the schema that must not match does not. -/
def meetsComposition (child : NodeTest) (s : Schema) (v : Value) : Bool :=
  (s.allOfList.all fun node => child node v) &&
  (s.anyOfList.isEmpty || s.anyOfList.any fun node => child node v) &&
  (s.oneOfList.isEmpty || (s.oneOfList.countP fun node => child node v) == 1) &&
  (s.notSchema.all fun node => !child node v)

/-! ## Nodes -/

/-- All rules of a schema for a value that they apply to. -/
def meetsKeywords (child : NodeTest) (s : Schema) (v : Value) : Bool :=
  meetsType s v && meetsEnum s v && meetsScalar s v && meetsObject child s v &&
    meetsArray child s v && meetsComposition child s v

/-- Conformance to a schema. Null conforms where it is allowed; where it is not, it conforms to no
type, and without a type the other rules decide. -/
def meetsSchema (child : NodeTest) (s : Schema) (v : Value) : Bool :=
  v.isNull && s.nullable.isTruthy || !(v.isNull && s.type.isSome) && meetsKeywords child s v

end Conformance

/-- Conformance to a node within a depth, each reference and each child node being one step down.
A reference without a target is conformed to by nothing. -/
def conforms (registry : Registry) : Nat → NodeTest
  | 0, _, _ => false
  | depth + 1, .schema s, v => Conformance.meetsSchema (conforms registry depth) s v
  | depth + 1, .ref name, v =>
    match registry.get? name with
    | none => false
    | some (.schema s) => Conformance.meetsSchema (conforms registry depth) s v
    | some (.ref other) => conforms registry depth (.ref other) v

section

variable {registry : Registry} {name : String}

/-- Nothing conforms to a name that nothing goes by. -/
lemma conforms_unknown (h : registry.get? name = none) (depth : Nat) (v : Value) :
    conforms registry depth (.ref name) v = false := by
  cases depth with
  | zero => rfl
  | succ depth => simp only [conforms, h]

/-- To conform to a name is to conform to the schema of that name. -/
lemma conforms_named {s : Schema} (h : registry.get? name = some (.schema s)) (depth : Nat)
    (v : Value) : conforms registry depth (.ref name) v = conforms registry depth (.schema s) v := by
  cases depth with
  | zero => rfl
  | succ depth => simp only [conforms, h]

/-- To conform to a name of a name is to conform to the latter, one step down. -/
lemma conforms_link {other : String} (h : registry.get? name = some (.ref other)) (depth : Nat)
    (v : Value) :
    conforms registry (depth + 1) (.ref name) v = conforms registry depth (.ref other) v := by
  simp only [conforms, h]

end

/-! ## Agreement with validation -/

namespace Conformance

open Validation

/-- A checker for nodes finds nothing exactly when a test says yes. -/
def Decides (child : NodeChecker) (test : NodeTest) : Prop :=
  ∀ node v path is, child node v path = .ok is → (is = [] ↔ test node v = true)

/-- The type of a value is checked by the type rule. -/
lemma hasType_eq_meetsType (s : Schema) (v : Value) : hasType s v = meetsType s v := by
  unfold hasType meetsType
  cases s.type with
  | none => rfl
  | some t =>
    cases t with
    | string => cases v <;> simp [Value.str?, isTemporal]
    | boolean => cases v <;> rfl
    | number | integer | object | array | unknown _ => rfl

/-- Checking the type finds nothing exactly when the type rule holds. -/
lemma checkType_eq_nil {s : Schema} {v : Value} {path : Path} :
    checkType s v path = [] ↔ meetsType s v = true := by
  rw [checkType, hasType_eq_meetsType, issueIf_eq_nil, Bool.not_eq_false']

/-- Checking the enumeration finds nothing exactly when its rule holds. -/
lemma checkEnum_eq_nil {s : Schema} {v : Value} {path : Path} :
    checkEnum s v path = [] ↔ meetsEnum s v = true := by
  unfold checkEnum meetsEnum
  cases s.enum with
  | none => simp
  | some members => simp only [issueIf_eq_nil, Bool.not_eq_false']

/-- The number of a keyword is what the keyword counts as. -/
lemma keywordNumber_eq_ok {keyword : Value} {n : Number} :
    keywordNumber keyword = .ok n ↔ keyword.operand? = some n := by
  unfold keywordNumber
  cases keyword.operand? <;> simp

/-- Null counts as no number. -/
lemma operand_of_isNull {v : Value} (h : v.isNull = true) : v.operand? = none := by
  cases v <;> simp_all [Value.isNull, Value.operand?, Value.number?]

/-- A count is below a bound exactly when it is not at least the bound. -/
lemma below_eq {count : Nat} {keyword : Value} {b : Bool} (h : below count keyword = .ok b) :
    b = false ↔ atLeast (.int count) keyword = true := by
  unfold below at h
  unfold atLeast
  split at h
  next hnull =>
    obtain rfl := Except.ok.inj h
    simp [operand_of_isNull hnull]
  next =>
    obtain ⟨bound, hbound, rfl⟩ := map_eq_ok.1 h
    simp [keywordNumber_eq_ok.1 hbound]

/-- A count is above a bound exactly when it is more than the bound. -/
lemma above_eq {count : Nat} {keyword : Value} {b : Bool} (h : above count keyword = .ok b) :
    b = false ↔ noMoreThan (.int count) keyword = true := by
  unfold above at h
  unfold noMoreThan
  split at h
  next hnull =>
    obtain rfl := Except.ok.inj h
    simp [operand_of_isNull hnull]
  next =>
    obtain ⟨bound, hbound, rfl⟩ := map_eq_ok.1 h
    simp [keywordNumber_eq_ok.1 hbound]

/-- A pattern is missing from a text exactly when the text does not match it. -/
lemma patternMissing_eq {pattern : Value} {text : String} {b : Bool}
    (h : patternMissing pattern text = .ok b) :
    b = false ↔ matchesPattern pattern text = true := by
  unfold patternMissing at h
  unfold matchesPattern
  split at h
  next hnull =>
    obtain rfl := Except.ok.inj h
    cases pattern <;> simp_all [Value.isNull]
  next =>
    obtain ⟨occurs, hoccurs, rfl⟩ := map_eq_ok.1 h
    unfold patternOccurs at hoccurs
    cases pattern with
    | str p => cases hp : CompiledPattern.ofText p <;> simp_all
    | _ => cases hoccurs

/-- Checking a text finds nothing exactly when the rules for texts hold. -/
lemma checkText_eq_nil {s : Schema} {text : String} {path : Path} {is : List Issue}
    (h : checkText s text path = .ok is) : is = [] ↔ meetsText s text = true := by
  rw [checkText_eq] at h
  simp only [bind_eq_ok, pure_eq_ok, Except.ok.injEq] at h
  obtain ⟨short, hshort, long, hlong, missing, hmissing, rfl⟩ := h
  simp only [List.append_eq_nil_iff, issueIf_eq_nil, meetsText, Bool.and_eq_true, below_eq hshort,
    above_eq hlong, patternMissing_eq hmissing]

/-- A number has no issue with a bound exactly when it lies on the right side of it. -/
lemma boundIssues_eq_nil {n b : Number} {v bound exclusive : Value}
    {strictly weakly : Number → Number → Bool} {excludedWords includedWords : String} {path : Path}
    (hweak : strictly n b = true → weakly n b = true) :
    boundIssues n b v bound exclusive strictly weakly excludedWords includedWords path = [] ↔
      (if exclusive.isTruthy then !weakly n b else !strictly n b) = true := by
  unfold boundIssues
  cases hexclusive : exclusive.isTruthy <;> cases hw : weakly n b <;> cases hs : strictly n b <;>
    simp_all

/-- Checking a bound finds nothing exactly when the number lies on the right side of it. -/
lemma checkBound_eq_nil {n : Number} {v bound exclusive : Value}
    {strictly weakly : Number → Number → Bool} {excludedWords includedWords : String} {path : Path}
    {is : List Issue} (hweak : ∀ b, strictly n b = true → weakly n b = true)
    (h : checkBound n v bound exclusive strictly weakly excludedWords includedWords path = .ok is) :
    is = [] ↔
      (match bound.operand? with
        | some b => if exclusive.isTruthy then !weakly n b else !strictly n b
        | none => true) = true := by
  rw [checkBound_eq] at h
  split at h
  next hnull =>
    obtain rfl := Except.ok.inj h
    simp [operand_of_isNull hnull]
  next =>
    obtain ⟨b, hb, rfl⟩ := map_eq_ok.1 h
    rw [boundIssues_eq_nil (hweak b), keywordNumber_eq_ok.1 hb]

/-- Checking a divisor finds nothing exactly when the number is a multiple of it. -/
lemma checkMultiple_eq_nil {n : Number} {v divisor : Value} {path : Path} {is : List Issue}
    (h : checkMultiple n v divisor path = .ok is) : is = [] ↔ meetsMultiple divisor n = true := by
  unfold checkMultiple at h
  unfold meetsMultiple
  split at h
  next hfalsy => simp_all
  next htruthy =>
    split at h
    next => cases h
    next d hd =>
      split at h
      next multiple hm =>
        obtain rfl := Except.ok.inj h
        simp_all
      next => cases h

/-- Checking a number finds nothing exactly when the rules for numbers hold. -/
lemma checkNumber_eq_nil {s : Schema} {n : Number} {v : Value} {path : Path} {is : List Issue}
    (h : checkNumber s n v path = .ok is) : is = [] ↔ meetsNumber s n = true := by
  simp only [checkNumber, bind_eq_ok, pure_eq_ok, Except.ok.injEq] at h
  obtain ⟨low, hlow, high, hhigh, multiple, hmultiple, rfl⟩ := h
  have hl : low = [] ↔ aboveMinimum s n = true :=
    checkBound_eq_nil (fun b hb => by simp [Number.atMost, hb]) hlow
  have hh : high = [] ↔ belowMaximum s n = true :=
    checkBound_eq_nil (fun b hb => by simp [Number.atMost, hb]) hhigh
  simp only [List.append_eq_nil_iff, hl, hh, checkMultiple_eq_nil hmultiple, meetsNumber,
    Bool.and_eq_true]

/-- A reading gives no reason against a value exactly when it succeeds. -/
lemma reasonOf_eq_none {α : Type} (x : Except FormatError α) :
    reasonOf x = none ↔ x.toBool = true := by
  cases x <;> simp [reasonOf, Except.toBool]

/-- A whole number is out of range exactly when it does not fit. -/
lemma outOfRange_int_eq_none {name : String} {bits : Nat} {n : Int} :
    outOfRange name bits (.int n) = none ↔ fitsSigned bits n = true := by
  simp [outOfRange]

/-- Checking a known format of texts gives a reason exactly when the text does not conform. -/
lemma textConforms_eq {format : KnownFormat} {name text : String} {reason? : Option String}
    (h : (do
      if ← textConforms format text then return none
      return some ("Value '" ++ text ++ "' is not a valid '" ++ name ++ "'") :
        Except Fault (Option String)) = .ok reason?) :
    reason? = none ↔
      (match textConforms format text with
        | .ok conforms => conforms
        | .error _ => false) = true := by
  cases ht : textConforms format text with
  | error f =>
    rw [ht] at h
    cases h
  | ok b =>
    rw [ht] at h
    cases b <;> cases h <;> simp

/-- A text that is no timestamp is the reason, and one off the calendar stops the check. -/
lemma checkKnown_dateTime_eq_none {name text : String} {reason? : Option String}
    (h : checkKnown name .dateTime (.str text) = .ok reason?) :
    reason? = none ↔ (Timestamp.parse text).toBool = true := by
  unfold checkKnown at h
  dsimp only at h
  split at h
  next t ht =>
    obtain rfl := Except.ok.inj h
    simp [ht, Except.toBool]
  next e ht =>
    obtain rfl := Except.ok.inj h
    simp [ht, Except.toBool]
  next => cases h

/-- Checking a known format gives a reason exactly when the value does not conform. -/
lemma checkKnown_eq_none {name : String} {format : KnownFormat} {v : Value}
    {reason? : Option String} (h : checkKnown name format v = .ok reason?) :
    reason? = none ↔ meetsKnown format v = true := by
  cases format with
  | dateTime =>
    cases v with
    | str text => exact checkKnown_dateTime_eq_none h
    | _ => simp_all [checkKnown, meetsKnown]
  | date =>
    cases v with
    | str text =>
      obtain rfl := Except.ok.inj h
      exact reasonOf_eq_none _
    | _ => simp_all [checkKnown, meetsKnown]
  | int32 =>
    cases v with
    | int n =>
      obtain rfl := Except.ok.inj h
      exact outOfRange_int_eq_none
    | _ => simp_all [checkKnown, meetsKnown, outOfRange]
  | int64 =>
    cases v with
    | int n =>
      obtain rfl := Except.ok.inj h
      exact outOfRange_int_eq_none
    | _ => simp_all [checkKnown, meetsKnown, outOfRange]
  | email | ipv4 | ipv6 | regex | time | uuid =>
    cases v with
    | str text => exact textConforms_eq h
    | _ => simp_all [checkKnown, meetsKnown]

/-- A value is checked against a format by the format rule. -/
lemma checkFormat_eq_none {v format : Value} {reason? : Option String}
    (h : checkFormat v format = .ok reason?) :
    reason? = none ↔ meetsFormat format v = true := by
  unfold checkFormat at h
  unfold meetsFormat
  cases format with
  | str name =>
    cases hname : KnownFormat.ofName? name with
    | none => simp_all
    | some known =>
      -- the name of a known format is not empty, so the keyword counts as set
      have hset : (Value.str name).isTruthy = true := by
        by_contra hempty
        have : name = "" := by simpa [Value.isTruthy] using hempty
        rw [this] at hname
        cases hname
      simp only [hset, hname, Bool.not_true, Bool.false_eq_true, if_false] at h ⊢
      exact checkKnown_eq_none h
  | _ =>
    split at h
    next => simp_all
    next =>
      dsimp only at h
      split at h <;> simp_all

/-- Checking the format finds nothing exactly when the format rule holds. -/
lemma checkFormatKeyword_eq_nil {s : Schema} {v : Value} {path : Path} {is : List Issue}
    (h : checkFormatKeyword s v path = .ok is) : is = [] ↔ meetsFormat s.format v = true := by
  rw [checkFormatKeyword_eq] at h
  obtain ⟨reason?, hreason, rfl⟩ := map_eq_ok.1 h
  rw [← checkFormat_eq_none hreason]
  cases reason? <;> simp [formatIssues]

/-- Checking a value that is neither object nor array finds nothing exactly when its rules hold. -/
lemma checkScalar_eq_nil {s : Schema} {v : Value} {path : Path} {is : List Issue}
    (h : checkScalar s v path = .ok is) : is = [] ↔ meetsScalar s v = true := by
  rw [checkScalar_eq] at h
  simp only [bind_eq_ok, pure_eq_ok, Except.ok.injEq] at h
  obtain ⟨text, htext, number, hnumber, format, hformat, rfl⟩ := h
  have ht : text = [] ↔ v.str?.all (meetsText s) = true := by
    unfold textIssues at htext
    split at htext
    next => exact checkText_eq_nil htext
    next => cases v <;> simp_all [Value.str?]
  have hn : number = [] ↔ v.number?.all (meetsNumber s) = true := by
    unfold numberIssues at hnumber
    split at hnumber
    next n hv => simp [hv, checkNumber_eq_nil hnumber]
    next hv => simp_all
  simp only [List.append_eq_nil_iff, ht, hn, checkFormatKeyword_eq_nil hformat, meetsScalar,
    Bool.and_eq_true]

/-! ### Objects and arrays -/

variable {child : NodeChecker} {test : NodeTest}

/-- What is gathered is nothing exactly when a test says yes of each thing. -/
lemma gather_eq_nil_iff_all {α : Type} {f : α → Check} {xs : List α} {is : List Issue}
    {p : α → Bool} (hp : ∀ x ∈ xs, ∀ js, f x = .ok js → (js = [] ↔ p x = true))
    (h : gather xs f = .ok is) : is = [] ↔ xs.all p = true := by
  obtain ⟨parts, hparts, rfl⟩ := gather_eq_ok.1 h
  clear h
  induction hparts with
  | nil => simp
  | @cons x part xs parts hx _ ih =>
    rw [List.flatten_cons, List.append_eq_nil_iff, List.all_cons, Bool.and_eq_true,
      hp x List.mem_cons_self part hx, ih fun y hy => hp y (List.mem_cons_of_mem x hy)]

/-- Checking declared properties finds nothing exactly when those that are there conform. -/
lemma checkProperties_eq_nil (hchild : Decides child test) {s : Schema} {data : Entries}
    {path : Path} {is : List Issue} (h : checkProperties child s data path = .ok is) :
    is = [] ↔ (s.declared.all fun p => (data.get? (.str p.1)).all (test p.2)) = true := by
  refine gather_eq_nil_iff_all (fun p _ js hjs => ?_) h
  split at hjs
  next w hget => simp [hget, hchild _ _ _ _ hjs]
  next hget => simp_all

/-- Checking required names finds nothing exactly when they are all there. -/
lemma checkRequired_eq_nil {required : List Value} {data : Entries} {path : Path}
    {is : List Issue} (h : gather required (checkRequiredName data path) = .ok is) :
    is = [] ↔ required.all data.has = true := by
  refine gather_eq_nil_iff_all (fun name _ js hjs => ?_) h
  unfold checkRequiredName at hjs
  split at hjs
  · cases hjs
  · obtain rfl := Except.ok.inj hjs
    rw [issueIf_eq_nil, Bool.not_eq_false']

/-- Checking undeclared properties finds nothing exactly when the schema allows them. -/
lemma checkAdditional_eq_nil (hchild : Decides child test) {s : Schema} {data : Entries}
    {path : Path} {is : List Issue} (h : checkAdditional child s data path = .ok is) :
    is = [] ↔ meetsAdditional test s data = true := by
  unfold checkAdditional at h
  unfold meetsAdditional
  cases hadditional : s.additional with
  | unspecified =>
    rw [hadditional] at h
    obtain rfl := Except.ok.inj h
    simp
  | flag allowed =>
    rw [hadditional] at h
    cases allowed with
    | true =>
      obtain rfl := Except.ok.inj h
      simp
    | false =>
      obtain rfl := Except.ok.inj h
      simp [undeclared, List.filter_eq_nil_iff]
  | schema node =>
    rw [hadditional] at h
    have hp : ∀ e ∈ undeclared s data, ∀ js, child node e.2 (path ++ [e.1]) = .ok js →
        (js = [] ↔ test node e.2 = true) := fun e _ js hjs => hchild _ _ _ _ hjs
    rw [gather_eq_nil_iff_all hp h]
    simp only [undeclared, List.all_filter, Bool.not_not]

/-- Checking the number of things finds nothing exactly when it is within its bounds. -/
lemma count_issues_eq_nil {few many : Bool} {count : Nat} {least most : Value}
    {lowIssue highIssue : Issue} (hfew : below count least = .ok few)
    (hmany : above count most = .ok many) :
    issueIf few lowIssue ++ issueIf many highIssue = [] ↔
      (atLeast (.int count) least && noMoreThan (.int count) most) = true := by
  simp only [List.append_eq_nil_iff, issueIf_eq_nil, below_eq hfew, above_eq hmany,
    Bool.and_eq_true]

/-- Checking an object finds nothing exactly when the rules for objects hold. -/
lemma checkObject_eq_nil (hchild : Decides child test) {s : Schema} {v : Value} {path : Path}
    {is : List Issue} (h : checkObject child s v path = .ok is) :
    is = [] ↔ meetsObject test s v = true := by
  unfold checkObject at h
  unfold meetsObject
  cases hview : v.objectView? s.required with
  | none => simp_all
  | some data =>
    rw [hview] at h
    simp only [checkPropertyCount, bind_eq_ok, pure_eq_ok, Except.ok.injEq] at h
    obtain ⟨declared, hdeclared, required, hrequired, additional, hadditional, count,
      ⟨few, hfew, many, hmany, rfl⟩, rfl⟩ := h
    rw [List.append_eq_nil_iff, List.append_eq_nil_iff, List.append_eq_nil_iff,
      checkProperties_eq_nil hchild hdeclared, checkRequired_eq_nil hrequired,
      checkAdditional_eq_nil hchild hadditional, count_issues_eq_nil hfew hmany]
    simp only [Option.all_some, meetsEntries, Bool.and_eq_true, and_assoc]

/-- The values of a list with a first one are distinct when none equals the first and the others
are distinct. -/
lemma areDistinct_cons {v : Value} {vs : List Value} :
    areDistinct (v :: vs) = true ↔
      (∀ w ∈ vs, w.jsonEqual v = false) ∧ areDistinct vs = true := by
  simp only [areDistinct, decide_eq_true_eq, List.pairwise_cons]

/-- No value of a list repeats one before it exactly when its values are distinct, from each other
and from those that came earlier. -/
lemma firstRepeated_eq_none {earlier items : List Value} {index : Nat} :
    firstRepeated earlier index items = none ↔
      (∀ v ∈ items, ∀ e ∈ earlier, v.jsonEqual e = false) ∧ areDistinct items = true := by
  induction items generalizing earlier index with
  | nil => simp [firstRepeated, areDistinct]
  | cons v vs ih =>
    unfold firstRepeated
    split
    next hany =>
      obtain ⟨e, he, heq⟩ := List.any_eq_true.1 hany
      refine ⟨fun h => (by cases h), fun ⟨hall, _⟩ => ?_⟩
      rw [hall v List.mem_cons_self e he] at heq
      cases heq
    next hany =>
      have hfirst : ∀ e ∈ earlier, v.jsonEqual e = false := by simpa using hany
      rw [ih, areDistinct_cons]
      simp only [List.mem_append, List.mem_singleton, List.forall_mem_cons]
      constructor
      · rintro ⟨hall, hdistinct⟩
        exact ⟨⟨hfirst, fun w hw e he => hall w hw e (.inl he)⟩,
          fun w hw => hall w hw v (.inr rfl), hdistinct⟩
      · rintro ⟨⟨-, hall⟩, hv, hdistinct⟩
        refine ⟨?_, hdistinct⟩
        rintro w hw e (he | rfl)
        · exact hall w hw e he
        · exact hv w hw

/-- Checking that items are not repeated finds nothing exactly when they are distinct. -/
lemma checkUnique_eq_nil {s : Schema} {items : List Value} {path : Path} :
    checkUnique s items path = [] ↔ (!s.uniqueItems.isTruthy || areDistinct items) = true := by
  have hnone : firstRepeated [] 0 items = none ↔ areDistinct items = true := by
    simp [firstRepeated_eq_none]
  unfold checkUnique
  cases s.uniqueItems.isTruthy with
  | false => simp
  | true =>
    rw [← Bool.coe_iff_coe] at *
    cases hfirst : firstRepeated [] 0 items <;> simp_all

/-- Checking the items finds nothing exactly when they all conform. -/
lemma checkItems_eq_nil (hchild : Decides child test) {s : Schema} {items : List Value}
    {path : Path} {is : List Issue} (h : checkItems child s items path = .ok is) :
    is = [] ↔ (s.items.all fun node => items.all (test node)) = true := by
  unfold checkItems at h
  split at h
  next hnone => simp_all
  next node hsome =>
    have hp : ∀ item ∈ items.zipIdx, ∀ js, child node item.1 (path ++ [.int item.2]) = .ok js →
        (js = [] ↔ test node item.1 = true) := fun _ _ _ hjs => hchild _ _ _ _ hjs
    rw [gather_eq_nil_iff_all hp h, hsome, Option.all_some]
    conv_rhs => rw [← List.zipIdx_map_fst 0 items, List.all_map]
    rfl

/-- Checking an array finds nothing exactly when the rules for arrays hold. -/
lemma checkArray_eq_nil (hchild : Decides child test) {s : Schema} {v : Value} {path : Path}
    {is : List Issue} (h : checkArray child s v path = .ok is) :
    is = [] ↔ meetsArray test s v = true := by
  unfold checkArray at h
  unfold meetsArray
  cases hitems : v.items? with
  | none => simp_all
  | some items =>
    rw [hitems] at h
    simp only [checkItemCount, bind_eq_ok, pure_eq_ok, Except.ok.injEq] at h
    obtain ⟨each, heach, count, ⟨few, hfew, many, hmany, rfl⟩, rfl⟩ := h
    rw [List.append_eq_nil_iff, List.append_eq_nil_iff, checkItems_eq_nil hchild heach,
      count_issues_eq_nil hfew hmany, checkUnique_eq_nil]
    simp only [Option.all_some, meetsItems, Bool.and_eq_true, and_assoc]

/-! ### Composition and nodes -/

/-- Checking whether a value conforms comes to what the test says. -/
lemma conforms_eq (hchild : Decides child test) {node : Node} {v : Value} {path : Path} {b : Bool}
    (h : Validation.conforms child node v path = .ok b) : b = test node v := by
  obtain ⟨is, his, rfl⟩ := map_eq_ok.1 h
  rw [Bool.eq_iff_iff, List.isEmpty_iff]
  exact hchild _ _ _ _ his

/-- Looking for an alternative that conforms comes to what the test says of any of them. -/
lemma conformsToAny_eq (hchild : Decides child test) {v : Value} {path : Path} {nodes : List Node}
    {b : Bool} (h : conformsToAny child v path nodes = .ok b) :
    b = nodes.any fun node => test node v := by
  induction nodes generalizing b with
  | nil => simpa [conformsToAny] using h.symm
  | cons node nodes ih =>
    obtain ⟨first, hfirst, h⟩ := bind_eq_ok.1 h
    rw [List.any_cons, ← conforms_eq hchild hfirst]
    cases first with
    | true => simpa using h.symm
    | false => simpa using ih h

/-- Counting the alternatives that conform comes to the number for which the test says yes. -/
lemma conformingCount_eq (hchild : Decides child test) {v : Value} {path : Path}
    {nodes : List Node} {n : Nat} (h : conformingCount child v path nodes = .ok n) :
    n = nodes.countP fun node => test node v := by
  induction nodes generalizing n with
  | nil => simpa [conformingCount] using h.symm
  | cons node nodes ih =>
    simp only [conformingCount, bind_eq_ok, pure_eq_ok, Except.ok.injEq] at h
    obtain ⟨one, hone, others, hothers, rfl⟩ := h
    rw [List.countP_cons, ← ih hothers, ← conforms_eq hchild hone, Nat.add_comm]

/-- Checking alternatives finds nothing exactly when there are none or one of them conforms. -/
lemma checkAnyOf_eq_nil (hchild : Decides child test) {s : Schema} {v : Value} {path : Path}
    {is : List Issue} (h : checkAnyOf child s v path = .ok is) :
    is = [] ↔ (s.anyOfList.isEmpty || s.anyOfList.any fun node => test node v) = true := by
  unfold checkAnyOf at h
  split at h
  next hempty => simp_all
  next hsome =>
    simp only [bind_eq_ok, pure_eq_ok, Except.ok.injEq] at h
    obtain ⟨any, hany, rfl⟩ := h
    rw [issueIf_eq_nil, conformsToAny_eq hchild hany, eq_false_of_ne_true hsome,
      Bool.false_or, Bool.not_eq_false']

/-- Checking alternatives that exclude each other finds nothing exactly when there are none or one
alone conforms. -/
lemma checkOneOf_eq_nil (hchild : Decides child test) {s : Schema} {v : Value} {path : Path}
    {is : List Issue} (h : checkOneOf child s v path = .ok is) :
    is = [] ↔
      (s.oneOfList.isEmpty || (s.oneOfList.countP fun node => test node v) == 1) = true := by
  unfold checkOneOf at h
  split at h
  next hempty => simp_all
  next hsome =>
    obtain ⟨count, hcount, h⟩ := bind_eq_ok.1 h
    rw [← conformingCount_eq hchild hcount, eq_false_of_ne_true hsome, Bool.false_or,
      beq_iff_eq]
    split at h
    next hzero =>
      obtain rfl := Except.ok.inj h
      simp [hzero]
    next hpos =>
      obtain rfl := Except.ok.inj h
      rw [issueIf_eq_nil, decide_eq_false_iff_not]
      omega

/-- Checking the schema that must not match finds nothing exactly when it does not. -/
lemma checkNot_eq_nil (hchild : Decides child test) {s : Schema} {v : Value} {path : Path}
    {is : List Issue} (h : checkNot child s v path = .ok is) :
    is = [] ↔ (s.notSchema.all fun node => !test node v) = true := by
  unfold checkNot at h
  split at h
  next hnone => simp_all
  next node hsome =>
    simp only [bind_eq_ok, pure_eq_ok, Except.ok.injEq] at h
    obtain ⟨matching, hmatching, rfl⟩ := h
    simp [hsome, conforms_eq hchild hmatching]

/-- Checking composition finds nothing exactly when its rules hold. -/
lemma checkComposition_eq_nil (hchild : Decides child test) {s : Schema} {v : Value}
    {path : Path} {is : List Issue} (h : checkComposition child s v path = .ok is) :
    is = [] ↔ meetsComposition test s v = true := by
  simp only [checkComposition, bind_eq_ok, pure_eq_ok, Except.ok.injEq] at h
  obtain ⟨all, hall, any, hany, one, hone, not, hnot, rfl⟩ := h
  have hmembers : ∀ node ∈ s.allOfList, ∀ js, child node v path = .ok js →
      (js = [] ↔ test node v = true) := fun _ _ _ hjs => hchild _ _ _ _ hjs
  simp only [List.append_eq_nil_iff, gather_eq_nil_iff_all hmembers hall,
    checkAnyOf_eq_nil hchild hany, checkOneOf_eq_nil hchild hone, checkNot_eq_nil hchild hnot,
    meetsComposition, Bool.and_eq_true]

/-- Checking all keywords finds nothing exactly when all rules hold. -/
lemma checkKeywords_eq_nil (hchild : Decides child test) {s : Schema} {v : Value} {path : Path}
    {is : List Issue} (h : checkKeywords child s v path = .ok is) :
    is = [] ↔ meetsKeywords test s v = true := by
  simp only [checkKeywords, bind_eq_ok, pure_eq_ok, Except.ok.injEq] at h
  obtain ⟨scalar, hscalar, object, hobject, array, harray, composition, hcomposition, rfl⟩ := h
  simp only [List.append_eq_nil_iff, checkType_eq_nil, checkEnum_eq_nil,
    checkScalar_eq_nil hscalar, checkObject_eq_nil hchild hobject,
    checkArray_eq_nil hchild harray, checkComposition_eq_nil hchild hcomposition, meetsKeywords,
    Bool.and_eq_true]

/-- Checking a schema finds nothing exactly when the value conforms to it. -/
lemma checkSchema_eq_nil (hchild : Decides child test) {s : Schema} {v : Value} {path : Path}
    {is : List Issue} (h : checkSchema child s v path = .ok is) :
    is = [] ↔ meetsSchema test s v = true := by
  unfold checkSchema at h
  unfold meetsSchema
  split at h
  next hallowed => simp_all
  next hforbidden =>
    split at h
    next htyped =>
      obtain rfl := Except.ok.inj h
      simp_all
    next huntyped =>
      rw [eq_false_of_ne_true hforbidden, eq_false_of_ne_true huntyped,
        Bool.false_or, Bool.not_false, Bool.true_and]
      exact checkKeywords_eq_nil hchild h

/-- **Checking decides conformance**: at every depth, a node is checked without an issue exactly
when the value conforms to it within that depth.

**Proof sketch.** Induction on the depth. Below a node of the next depth every child is checked at
the present one, so each group of keywords finds nothing exactly when its rule holds; a negated
child takes both directions of the hypothesis. -/
theorem checkNode_eq_nil (registry : Registry) (limit : Int) (depth : Nat) :
    Decides (checkNode registry limit depth) (conforms registry depth) := by
  intro node
  induction depth, node using registry.node_induction with
  | zero node =>
    intro v path is h
    cases h
  | unknown depth name hget =>
    intro v path is h
    rw [checkNode_unknown hget] at h
    obtain rfl := Except.ok.inj h
    simp [conforms_unknown hget]
  | named depth name s hget ih =>
    intro v path is h
    rw [checkNode_named hget] at h
    rw [conforms_named hget]
    exact ih v path is h
  | link depth name other hget ih =>
    intro v path is h
    rw [checkNode_link hget] at h
    rw [conforms_link hget]
    exact ih v path is h
  | schema depth s ih => exact fun v path is h => checkSchema_eq_nil ih h

end Conformance

/-- **Validation decides conformance.** Whenever the issues of a value are found at all, they are
none exactly when the value conforms to the node within the limit. -/
theorem validate_eq_nil_iff_conforms {registry : Registry} {node : Node} {v : Value} {limit : Int}
    {issues : List Issue} (h : validate registry node v limit = .ok issues) :
    issues = [] ↔ conforms registry limit.toNat node v = true :=
  Conformance.checkNode_eq_nil registry limit limit.toNat node v [] issues h

/-! ### A schema that refers to itself -/

/-- Chains of numbers: one that is not negative, and possibly a further chain. -/
def chainRegistry : Registry :=
  ⟨[("Chain", .schema {
    type := some .object
    properties := some [("head", .schema { type := some .integer, minimum := .int 0 }),
      ("next", .ref "Chain")]
    required := [.str "head"]
    oneOf := some [.schema { required := [.str "next"] }, .schema { maxProperties := .int 1 }]
    notSchema := some (.schema { minProperties := .int 3 }) })]⟩

/-- A chain of two numbers. -/
def twoLinks : Value :=
  .mapping [(.str "head", .int 1), (.str "next", .mapping [(.str "head", .int 2)])]

/-- A chain of two numbers is found without issue, and conforms to the schema of chains. -/
theorem twoLinks_conforms :
    validate chainRegistry (.ref "Chain") twoLinks 8 = .ok [] ∧
      conforms chainRegistry 8 (.ref "Chain") twoLinks = true := by
  have h : validate chainRegistry (.ref "Chain") twoLinks 8 = .ok [] :=
    eq_ok_nil_of_isEmpty (by decide +kernel)
  exact ⟨h, (validate_eq_nil_iff_conforms h).1 rfl⟩

end DataSchema
