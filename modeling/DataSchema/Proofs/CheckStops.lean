import DataSchema.Proofs.Keywords
import DataSchema.Proofs.Nesting
import DataSchema.Proofs.Reachability
import DataSchema.Proofs.Leeway
import DataSchema.Proofs.NodeSteps

set_option autoImplicit false

/-!
# What stops a check

Where every keyword holds a value of its kind, a check stops at the depth guard, or in one of three
ways: a timestamp names an instant off the calendar, a number cannot be divided, or a text to be
read as a pattern asks for more than patterns can do. Each of the three is read off a schema and a
value, and each of them stops the check of that value against that schema.

## Main definitions

* `DataSchema.StopsOnly` — evaluations that stop for given reasons at most.
* `DataSchema.Keywords.WellTyped` — schemas whose keywords hold values of their kinds.
* `DataSchema.Keywords.Escapes` — how a value escapes the check of a schema.
* `DataSchema.Registry.steps` — the nodes that a check or a cast by a schema can go on with.

## Main results

* `DataSchema.Validation.checkSchema_stopsOnly` — checks of a schema.
* `DataSchema.Validation.checkNode_stopsOnly` — checks of nodes, at every depth.
* `DataSchema.Keywords.Escapes.validate_eq_error` — what escapes does stop a check.
-/

namespace DataSchema

/-- An evaluation stops, if at all, for one of the given reasons. -/
def StopsOnly {α : Type} (P : Fault → Prop) (x : Except Fault α) : Prop := ∀ f, x = .error f → P f

namespace StopsOnly

variable {P : Fault → Prop} {α β : Type}

/-- A result stops nowhere. -/
lemma ok (a : α) : StopsOnly P (.ok a) := fun f hf => by cases hf

/-- A fault stops for itself. -/
lemma error {f : Fault} (hf : P f) : StopsOnly P (.error f : Except Fault α) := by
  rintro g ⟨⟩
  exact hf

/-- An evaluation with a result stops nowhere. -/
lemma of_eq_ok {x : Except Fault α} {a : α} (hx : x = .ok a) : StopsOnly P x := hx ▸ ok a

/-- Evaluations in a row stop where one of them does. -/
lemma bind {x : Except Fault α} {f : α → Except Fault β} (hx : StopsOnly P x)
    (hf : ∀ a, StopsOnly P (f a)) : StopsOnly P (x >>= f) := by
  intro g hg
  rcases bind_eq_error.1 hg with hg | ⟨a, -, hg⟩
  · exact hx g hg
  · exact hf a g hg

/-- A changed result stops where the result does. -/
lemma map {x : Except Fault α} (hx : StopsOnly P x) (f : α → β) : StopsOnly P (x.map f) :=
  fun g hg => hx g (map_eq_error.1 hg)

/-- Gathering stops where one of the checks does. -/
lemma gather {ι : Type} {xs : List ι} {f : ι → Check} (h : ∀ x ∈ xs, StopsOnly P (f x)) :
    StopsOnly P (Validation.gather xs f) := by
  intro g hg
  obtain ⟨x, hx, hg⟩ := Validation.gather_eq_error hg
  exact h x hx g hg

end StopsOnly

/-! ## Well-typed schemas -/

namespace Keywords

/-- The keywords of a schema hold values of their kinds: names are texts, counts and bounds are
numbers, patterns can be compiled. -/
structure WellTyped (s : Schema) : Prop where
  /-- The format is a name. -/
  format : s.format = .null ∨ ∃ name, s.format = .str name
  /-- Counts are whole numbers. -/
  count : ∀ v ∈ [s.minLength, s.maxLength, s.minProperties, s.maxProperties, s.minItems,
    s.maxItems], v = .null ∨ ∃ n, v = .int n
  /-- Bounds and divisors are numbers. -/
  bound : ∀ v ∈ [s.minimum, s.maximum, s.multipleOf], v = .null ∨ v.isNumber = true
  /-- The pattern can be compiled. -/
  pattern : s.pattern = .null ∨ ∃ p compiled, s.pattern = .str p ∧
    CompiledPattern.ofText p = .ok compiled
  /-- Required names are texts. -/
  required : ∀ n ∈ s.required, ∃ name, n = .str name
  /-- The tag of a record type is a text. -/
  targetType : ∀ tag, s.targetType = .tagged tag → ∃ name, tag = .str name

/-- How a value escapes the check of a schema. -/
inductive Escapes (s : Schema) : Value → Fault → Prop
  /-- A timestamp names an instant off the calendar. -/
  | timestamp {text : String} : s.format = .str "date-time" →
    Timestamp.parse text = .error .offCalendar → Escapes s (.str text) .offCalendar
  /-- A number cannot be divided. -/
  | division {v : Value} {n d : Number} {fault : ArithmeticFault} : v.number? = some n →
    s.multipleOf.isTruthy = true → s.multipleOf.operand? = some d →
    n.isMultiple d = .error fault → Escapes s v (.arithmetic fault)
  /-- A text asks for more than a pattern can do. -/
  | pattern {text : String} {fault : PatternFault} : s.format = .str "regex" →
    CompiledPattern.ofText text = .error fault → (∀ flaw place, fault ≠ .malformed flaw place) →
    Escapes s (.str text) (.pattern fault)

/-- A well-typed schema is well-typed without its alternatives. -/
lemma WellTyped.withoutAlternatives {s : Schema} (hs : s.WellTyped) :
    s.withoutAlternatives.WellTyped :=
  ⟨hs.format, hs.count, hs.bound, hs.pattern, hs.required, hs.targetType⟩

/-- What escapes a schema without its alternatives escapes the schema. -/
lemma Escapes.of_withoutAlternatives {s : Schema} {v : Value} {f : Fault}
    (h : s.withoutAlternatives.Escapes v f) : s.Escapes v f := by
  cases h with
  | timestamp hformat h => exact .timestamp hformat h
  | division hn hset hd h => exact .division hn hset hd h
  | pattern hformat h hflaw => exact .pattern hformat h hflaw

end Keywords

/-- The nodes that a check or a cast by a schema can go on with: those below it and, if it selects
other schemas, all references that it can select. -/
def Registry.steps (r : Registry) (s : Schema) : List Node :=
  s.children ++ if s.discriminator.isSome then r.entries.map fun e => .ref e.1 else []

/-- A schema that selects others can go on with every bound name. -/
lemma Registry.ref_mem_steps {r : Registry} {s : Schema} {name : String}
    (hsome : s.discriminator.isSome = true) (hname : (r.get? name).isSome = true) :
    .ref name ∈ r.steps s := by
  obtain ⟨node, hnode⟩ := Option.isSome_iff_exists.1 hname
  obtain ⟨l₁, l₂, hentries, -⟩ := List.lookup_eq_some_iff.1 hnode
  refine List.mem_append_right _ ?_
  rw [if_pos hsome, List.mem_map]
  exact ⟨(name, node), by rw [hentries]; simp, rfl⟩

namespace Validation

open Keywords

variable {P : Fault → Prop} {s : Schema}

/-! ## Counts, texts and numbers -/

/-- A keyword that holds null or what counts as a number. -/
def IsNumeric (keyword : Value) : Prop := keyword = .null ∨ ∃ n, keyword.operand? = some n

/-- Counts count as numbers. -/
lemma isNumeric_count (hs : s.WellTyped) {v : Value}
    (hv : v ∈ [s.minLength, s.maxLength, s.minProperties, s.maxProperties, s.minItems,
      s.maxItems]) : IsNumeric v := by
  rcases hs.count v hv with h | ⟨n, rfl⟩
  · exact .inl h
  · exact .inr ⟨_, rfl⟩

/-- Bounds count as numbers. -/
lemma isNumeric_bound (hs : s.WellTyped) {v : Value}
    (hv : v ∈ [s.minimum, s.maximum, s.multipleOf]) : IsNumeric v := by
  rcases hs.bound v hv with h | h
  · exact .inl h
  · right
    cases v <;> simp_all [Value.isNumber, Value.number?, Value.operand?]

/-- A count is compared with what counts as a number. -/
lemma below_eq_ok {keyword : Value} (h : IsNumeric keyword) (count : Nat) :
    ∃ b, below count keyword = .ok b := by
  rcases h with rfl | ⟨n, hn⟩
  · exact ⟨false, rfl⟩
  · unfold below keywordNumber
    rw [hn]
    split <;> exact ⟨_, rfl⟩

/-- A count is compared with what counts as a number. -/
lemma above_eq_ok {keyword : Value} (h : IsNumeric keyword) (count : Nat) :
    ∃ b, above count keyword = .ok b := by
  rcases h with rfl | ⟨n, hn⟩
  · exact ⟨false, rfl⟩
  · unfold above keywordNumber
    rw [hn]
    split <;> exact ⟨_, rfl⟩

/-- A pattern that can be compiled is looked for. -/
lemma patternMissing_eq_ok (hs : s.WellTyped) (text : String) :
    ∃ b, patternMissing s.pattern text = .ok b := by
  rcases hs.pattern with h | ⟨p, compiled, h, hp⟩
  · rw [h]
    exact ⟨false, rfl⟩
  · rw [h, patternMissing, if_neg (by simp [Value.isNull])]
    unfold patternOccurs
    dsimp only
    rw [hp]
    exact ⟨_, rfl⟩

/-- The check of a text comes to an end. -/
lemma checkText_eq_ok (hs : s.WellTyped) (text : String) (path : Path) :
    ∃ is, checkText s text path = .ok is := by
  obtain ⟨short, hshort⟩ :=
    below_eq_ok (isNumeric_count hs (v := s.minLength) (by simp)) text.length
  obtain ⟨long, hlong⟩ :=
    above_eq_ok (isNumeric_count hs (v := s.maxLength) (by simp)) text.length
  obtain ⟨missing, hmissing⟩ := patternMissing_eq_ok hs text
  rw [checkText_eq, hshort, hlong, hmissing]
  exact ⟨_, rfl⟩

/-- The check of a bound comes to an end. -/
lemma checkBound_eq_ok {bound : Value} (h : IsNumeric bound) (n : Number) (v exclusive : Value)
    (strictly weakly : Number → Number → Bool) (excludedWords includedWords : String)
    (path : Path) :
    ∃ is, checkBound n v bound exclusive strictly weakly excludedWords includedWords path =
      .ok is := by
  rw [checkBound_eq]
  rcases h with rfl | ⟨b, hb⟩
  · exact ⟨[], rfl⟩
  · unfold keywordNumber
    rw [hb]
    split <;> exact ⟨_, rfl⟩

/-- The check of a divisor stops where the number cannot be divided. -/
lemma checkMultiple_stopsOnly (hs : s.WellTyped) (hP : ∀ w f, s.Escapes w f → P f) {n : Number}
    {v : Value} (hv : v.number? = some n) (path : Path) :
    StopsOnly P (checkMultiple n v s.multipleOf path) := by
  unfold checkMultiple
  split
  next => exact .ok _
  next hset =>
    rw [Bool.not_eq_true', Bool.not_eq_false] at hset
    split
    next hnone =>
      rcases isNumeric_bound hs (v := s.multipleOf) (by simp) with h | ⟨d, hd⟩
      · rw [h] at hset
        cases hset
      · rw [hd] at hnone
        cases hnone
    next d hd =>
      split
      next => exact .ok _
      next fault hfault => exact .error (hP v _ (.division hv hset hd hfault))

/-- The bounds of a number are checked, before what it is a multiple of. -/
lemma checkNumber_bounds (hs : s.WellTyped) (n : Number) (v : Value) (path : Path) :
    ∃ low high, checkNumber s n v path = (checkMultiple n v s.multipleOf path >>= fun multiple =>
      .ok (low ++ high ++ multiple)) := by
  obtain ⟨low, hlow⟩ := checkBound_eq_ok (isNumeric_bound hs (v := s.minimum) (by simp)) n v
    s.exclusiveMinimum Number.less Number.atMost "greater than" "at least" path
  obtain ⟨high, hhigh⟩ := checkBound_eq_ok (isNumeric_bound hs (v := s.maximum) (by simp)) n v
    s.exclusiveMaximum (fun a b => b.less a) (fun a b => b.atMost a) "less than" "at most" path
  refine ⟨low, high, ?_⟩
  rw [checkNumber, hlow, hhigh]
  rfl

/-! ## Formats -/

/-- The names of formats that can stop a check. -/
lemma ofName?_eq_some {name : String} :
    (KnownFormat.ofName? name = some .dateTime → name = "date-time") ∧
      (KnownFormat.ofName? name = some .regex → name = "regex") := by
  unfold KnownFormat.ofName?
  split <;> simp

/-- Whether a text conforms to a format is decided unless it asks for more than a pattern can
do. -/
lemma textConforms_stopsOnly (hP : ∀ w f, s.Escapes w f → P f) {name : String}
    {known : KnownFormat} (h : s.format = .str name)
    (hknown : KnownFormat.ofName? name = some known) (text : String) :
    StopsOnly P (textConforms known text) := by
  unfold textConforms
  cases known with
  | regex =>
    obtain rfl := ofName?_eq_some.2 hknown
    dsimp only
    split
    next => exact .ok _
    next => exact .ok _
    next fault hflaw hfault =>
      exact .error (hP _ _ (.pattern h hfault fun flaw place heq => hflaw flaw place heq))
  | _ => exact .ok _

/-- The check of a format stops at a timestamp off the calendar, or at a text that asks for more
than a pattern can do. -/
lemma checkFormat_stopsOnly (hs : s.WellTyped) (hP : ∀ w f, s.Escapes w f → P f) (v : Value) :
    StopsOnly P (checkFormat v s.format) := by
  rcases hs.format with h | ⟨name, h⟩
  · rw [h]
    exact .ok _
  · rw [h]
    unfold checkFormat
    split
    next => exact .ok _
    next =>
      dsimp only
      split
      next known hknown =>
        unfold checkKnown
        split
        next text =>
          obtain rfl := ofName?_eq_some.1 hknown
          split
          next => exact .ok _
          next => exact .ok _
          next hoff => exact .error (hP _ _ (.timestamp h hoff))
        next => exact .ok _
        next => exact .ok _
        next => exact .ok _
        next text _ _ _ _ =>
          refine (textConforms_stopsOnly hP h hknown text).bind fun conforms => ?_
          cases conforms <;> exact .ok _
        next => exact .ok _
      next => exact .ok _

/-- The check of a value as a text comes to an end. -/
lemma textIssues_eq_ok (hs : s.WellTyped) (v : Value) (path : Path) :
    ∃ is, textIssues s v path = .ok is := by
  unfold textIssues
  split
  · exact checkText_eq_ok hs _ path
  · exact ⟨[], rfl⟩

/-- The keywords for scalars stop a check where the value escapes. -/
lemma checkScalar_stopsOnly (hs : s.WellTyped) (hP : ∀ w f, s.Escapes w f → P f) (v : Value)
    (path : Path) : StopsOnly P (checkScalar s v path) := by
  obtain ⟨text, htext⟩ := textIssues_eq_ok hs v path
  have hnumber : StopsOnly P (numberIssues s v path) := by
    unfold numberIssues
    split
    next n hn =>
      obtain ⟨low, high, h⟩ := checkNumber_bounds hs n v path
      rw [h]
      exact (checkMultiple_stopsOnly hs hP hn path).bind fun multiple => .ok _
    next => exact .ok _
  rw [checkScalar_eq, checkFormatKeyword_eq]
  refine (StopsOnly.of_eq_ok htext).bind fun text => hnumber.bind fun number => ?_
  exact ((checkFormat_stopsOnly hs hP v).map _).bind fun format => .ok _

/-! ## What no other node is asked about -/

/-- What a schema asks of a value without another node stops evaluations for given reasons at
most. -/
structure OwnStopsOnly (P : Fault → Prop) (s : Schema) : Prop where
  /-- The keywords for texts, numbers and formats. -/
  scalar : ∀ v path, StopsOnly P (checkScalar s v path)
  /-- The least numbers of things. -/
  below : ∀ keyword ∈ [s.minProperties, s.minItems], ∀ n, StopsOnly P (below n keyword)
  /-- The greatest numbers of things. -/
  above : ∀ keyword ∈ [s.maxProperties, s.maxItems], ∀ n, StopsOnly P (above n keyword)
  /-- The required names. -/
  required : ∀ data path, ∀ n ∈ s.required, StopsOnly P (checkRequiredName data path n)

/-- What a well-typed schema asks of a value stops where the value escapes. -/
lemma ownStopsOnly_of_wellTyped (hs : s.WellTyped) (hP : ∀ w f, s.Escapes w f → P f) :
    OwnStopsOnly P s where
  scalar v path := checkScalar_stopsOnly hs hP v path
  below keyword hkeyword n := by
    have hcount : IsNumeric keyword := by
      rcases List.mem_pair.1 hkeyword with rfl | rfl <;> exact isNumeric_count hs (by simp)
    obtain ⟨few, hfew⟩ := below_eq_ok hcount n
    exact .of_eq_ok hfew
  above keyword hkeyword n := by
    have hcount : IsNumeric keyword := by
      rcases List.mem_pair.1 hkeyword with rfl | rfl <;> exact isNumeric_count hs (by simp)
    obtain ⟨many, hmany⟩ := above_eq_ok hcount n
    exact .of_eq_ok hmany
  required data path n hn := by
    obtain ⟨name, rfl⟩ := hs.required n hn
    exact .ok _

/-! ## Objects, arrays and composition -/

section

variable {child : NodeChecker} {v : Value} (hs : OwnStopsOnly P s)

include hs

section

variable (hpart : ∀ c ∈ s.partNodes, ∀ w, v.HasPart w → ∀ path, StopsOnly P (child c w path))

include hpart

/-- The check of an object stops where that of a part does. -/
lemma checkObject_stopsOnly (path : Path) : StopsOnly P (checkObject child s v path) := by
  unfold checkObject
  split
  next => exact .ok _
  next data hview =>
    have hproperties : StopsOnly P (checkProperties child s data path) := by
      refine .gather fun p hp => ?_
      split
      next w hw => exact hpart _ (mem_partNodes_declared hp) w (.get hview hw) _
      next => exact .ok _
    have hrequired : StopsOnly P (gather s.required (checkRequiredName data path)) :=
      .gather fun n hn => hs.required data path n hn
    have hadditional : StopsOnly P (checkAdditional child s data path) := by
      unfold checkAdditional
      split
      next => exact .ok _
      next => exact .ok _
      next => exact .ok _
      next node hnode =>
        refine .gather fun e he => ?_
        have hw : v.HasPart e.2 := .property hview (List.mem_filter.1 he).1
        exact hpart _ (mem_partNodes_additional hnode) e.2 hw _
    refine hproperties.bind fun declared => hrequired.bind fun required => ?_
    refine hadditional.bind fun additional => StopsOnly.bind ?_ fun count => .ok _
    exact (hs.below _ (by simp) _).bind fun few => (hs.above _ (by simp) _).bind fun many => .ok _

/-- The check of an array stops where that of an item does. -/
lemma checkArray_stopsOnly (path : Path) : StopsOnly P (checkArray child s v path) := by
  unfold checkArray
  split
  next => exact .ok _
  next items hitems =>
    have heach : StopsOnly P (checkItems child s items path) := by
      unfold checkItems
      split
      next => exact .ok _
      next node hnode =>
        refine .gather fun item hitem => ?_
        have hw : item.1 ∈ items := List.fst_mem_of_mem_zipIdx hitem
        exact hpart _ (mem_partNodes_items hnode) item.1 (.item hitems hw) _
    refine heach.bind fun each => StopsOnly.bind ?_ fun count => .ok _
    exact (hs.below _ (by simp) _).bind fun few => (hs.above _ (by simp) _).bind fun many => .ok _

end

omit hs in
/-- Conformance to one of several nodes is decided unless one of them stops the check. -/
lemma conformsToAny_stopsOnly {nodes : List Node} {v : Value} {path : Path}
    (h : ∀ c ∈ nodes, StopsOnly P (child c v path)) :
    StopsOnly P (conformsToAny child v path nodes) := by
  induction nodes with
  | nil => exact .ok _
  | cons c cs ih =>
    refine ((h c List.mem_cons_self).map _).bind fun fits => ?_
    cases fits with
    | true => exact .ok _
    | false => exact ih fun c' hc' => h c' (List.mem_cons_of_mem c hc')

omit hs in
/-- The nodes that a value conforms to are counted unless one of them stops the check. -/
lemma conformingCount_stopsOnly {nodes : List Node} {v : Value} {path : Path}
    (h : ∀ c ∈ nodes, StopsOnly P (child c v path)) :
    StopsOnly P (conformingCount child v path nodes) := by
  induction nodes with
  | nil => exact .ok _
  | cons c cs ih =>
    refine ((h c List.mem_cons_self).map _).bind fun fits => ?_
    exact (ih fun c' hc' => h c' (List.mem_cons_of_mem c hc')).bind fun others => .ok _

omit hs in
/-- The check of a composition stops where that of a member or an alternative does. -/
lemma checkComposition_stopsOnly {path : Path}
    (hsame : ∀ c ∈ s.sameNodes, StopsOnly P (child c v path)) :
    StopsOnly P (checkComposition child s v path) := by
  have hall : StopsOnly P (gather s.allOfList fun node => child node v path) :=
    .gather fun c hc => hsame c (mem_sameNodes_allOf hc)
  have hany : StopsOnly P (checkAnyOf child s v path) := by
    unfold checkAnyOf
    split
    · exact .ok _
    · exact (conformsToAny_stopsOnly fun c hc => hsame c (mem_sameNodes_anyOf hc)).bind
        fun any => .ok _
  have hone : StopsOnly P (checkOneOf child s v path) := by
    unfold checkOneOf
    split
    · exact .ok _
    · refine (conformingCount_stopsOnly fun c hc => hsame c (mem_sameNodes_oneOf hc)).bind
        fun count => ?_
      split <;> exact .ok _
  have hnot : StopsOnly P (checkNot child s v path) := by
    unfold checkNot
    split
    next => exact .ok _
    next node hnode =>
      exact ((hsame node (mem_sameNodes_not hnode)).map _).bind fun matching => .ok _
  unfold checkComposition
  exact hall.bind fun all => hany.bind fun any => hone.bind fun one => hnot.bind fun not => .ok _

/-- **The check of a schema stops** where what it asks without another node does, or where the
check of a part or of the value itself by a node below stops. -/
lemma checkSchema_stopsOnly
    (hpart : ∀ c ∈ s.partNodes, ∀ w, v.HasPart w → ∀ path, StopsOnly P (child c w path))
    {path : Path} (hsame : ∀ c ∈ s.sameNodes, StopsOnly P (child c v path)) :
    StopsOnly P (checkSchema child s v path) := by
  unfold checkSchema
  split
  · exact .ok _
  · split
    · exact .ok _
    · unfold checkKeywords
      refine (hs.scalar v path).bind fun scalar => ?_
      refine (checkObject_stopsOnly hs hpart path).bind fun object => ?_
      refine (checkArray_stopsOnly hs hpart path).bind fun array => ?_
      exact (checkComposition_stopsOnly hsame).bind fun composition => .ok _

end

/-! ## Nodes -/

/-- The schemas that a node leads to are well-typed, and what escapes one of them is a given reason
to stop; so is the depth guard. -/
structure Guarded (registry : Registry) (P : Fault → Prop) (node : Node) : Prop where
  wellTyped : ∀ s, registry.Reaches registry.steps node s → s.WellTyped
  escapes : ∀ s, registry.Reaches registry.steps node s → ∀ v f, s.Escapes v f → P f
  tooDeep : ∀ f : Fault, f.isTooDeep = true → P f

namespace Guarded

variable {registry : Registry}

/-- What is guarded from a node is guarded from where it leads. -/
lemma mono {node node' : Node} (h : Guarded registry P node)
    (hreaches : ∀ s, registry.Reaches registry.steps node' s →
      registry.Reaches registry.steps node s) : Guarded registry P node' where
  wellTyped s hs := h.wellTyped s (hreaches s hs)
  escapes s hs := h.escapes s (hreaches s hs)
  tooDeep := h.tooDeep

/-- What is guarded from a reference is guarded from its target. -/
lemma ref {name : String} {node : Node} (h : Guarded registry P (.ref name))
    (hget : registry.get? name = some node) : Guarded registry P node :=
  h.mono fun _ hs => .ref hget hs

/-- What is guarded from a schema is guarded from the nodes that it can go on with. -/
lemma child {c : Node} (h : Guarded registry P (.schema s)) (hc : c ∈ registry.steps s) :
    Guarded registry P c :=
  h.mono fun _ hs => .child hc hs

/-- What is guarded from a schema is guarded from the nodes below it. -/
lemma below {c : Node} (h : Guarded registry P (.schema s)) (hc : c ∈ s.children) :
    Guarded registry P c :=
  h.child (List.mem_append_left _ hc)

/-- What is guarded from a schema is guarded from what it can select. -/
lemma selected {name : String} (h : Guarded registry P (.schema s))
    (hsome : s.discriminator.isSome) (hname : (registry.get? name).isSome) :
    Guarded registry P (.ref name) :=
  h.child (Registry.ref_mem_steps hsome hname)

/-- What is guarded from a schema is guarded from the schema without its alternatives. -/
lemma withoutAlternatives (h : Guarded registry P (.schema s)) :
    Guarded registry P (.schema s.withoutAlternatives) := by
  have hsteps : ∀ c ∈ registry.steps s.withoutAlternatives, c ∈ registry.steps s := by
    intro c hc
    -- the discriminator stays, so that only the nodes below the schema are fewer
    rcases List.mem_append.1 hc with hc | hc
    · exact List.mem_append_left _ (mem_children_of_withoutAlternatives hc)
    · exact List.mem_append_right _ hc
  refine ⟨fun t ht => ?_, fun t ht v f hf => ?_, h.tooDeep⟩
  · rcases ht.of_withoutAlternatives hsteps with rfl | ht
    · exact (h.wellTyped s (.here s)).withoutAlternatives
    · exact h.wellTyped t ht
  · rcases ht.of_withoutAlternatives hsteps with rfl | ht
    · exact h.escapes s (.here s) v f hf.of_withoutAlternatives
    · exact h.escapes t ht v f hf

end Guarded

/-- **Checks stop at the depth guard or where something escapes**, at every depth.

**Proof sketch.** Induction on the depth; every node below a schema is led to by the schema. -/
theorem checkNode_stopsOnly (registry : Registry) (limit : Int) (depth : Nat) {node : Node}
    (hnode : Guarded registry P node) (v : Value) (path : Path) :
    StopsOnly P (checkNode registry limit depth node v path) := by
  induction depth, node using registry.node_induction generalizing v path with
  | zero node => exact .error (hnode.tooDeep _ rfl)
  | unknown depth name hget =>
    rw [checkNode_unknown hget]
    exact .ok _
  | named depth name s hget ih =>
    rw [checkNode_named hget]
    exact ih (hnode.ref hget) v path
  | link depth name other hget ih =>
    rw [checkNode_link hget]
    exact ih (hnode.ref hget) v path
  | schema depth s ih =>
    have hown := ownStopsOnly_of_wellTyped (hnode.wellTyped s (.here s)) (hnode.escapes s (.here s))
    refine checkSchema_stopsOnly hown (fun c hc w _ path => ?_) fun c hc => ?_
    · exact ih c (hnode.below (mem_children_of_part hc)) w path
    · exact ih c (hnode.below (mem_children_of_same hc)) v path

end Validation

namespace Keywords

open Validation

variable {s : Schema} {v : Value} {f : Fault}

/-- What escapes a format stops the check of it. -/
lemma checkFormat_eq_error {text : String} {name : String} {known : KnownFormat} (hname : name ≠ "")
    (hformat : s.format = .str name) (hknown : KnownFormat.ofName? name = some known)
    (hcheck : checkKnown name known (.str text) = .error f) :
    checkFormat (.str text) s.format = .error f := by
  have htruthy : (!(Value.str name).isTruthy) = false := by
    simpa [Value.isTruthy] using hname
  rw [hformat]
  unfold checkFormat
  rw [htruthy, if_neg Bool.false_ne_true]
  dsimp only
  rw [hknown]
  exact hcheck

/-- What stops the check of the format of a text stops the check of its keywords for scalars. -/
lemma checkScalar_eq_error_of_format (hs : s.WellTyped) {text : String} (path : Path)
    (h : checkFormat (.str text) s.format = .error f) :
    checkScalar s (.str text) path = .error f := by
  obtain ⟨is, his⟩ := textIssues_eq_ok hs (.str text) path
  rw [checkScalar_eq, his, checkFormatKeyword_eq, h]
  rfl

/-- What escapes a schema stops the check of its keywords for scalars. -/
lemma Escapes.checkScalar_eq_error (hs : s.WellTyped) (h : s.Escapes v f) (path : Path) :
    checkScalar s v path = .error f := by
  cases h with
  | timestamp hformat hoff =>
    refine checkScalar_eq_error_of_format hs path ?_
    refine checkFormat_eq_error (by decide) hformat rfl ?_
    unfold checkKnown
    dsimp only
    rw [hoff]
  | pattern hformat hfault hflaw =>
    refine checkScalar_eq_error_of_format hs path ?_
    refine checkFormat_eq_error (by decide) hformat rfl ?_
    unfold checkKnown textConforms
    dsimp only
    rw [hfault]
    split
    next heq => cases heq
    next heq => exact absurd (Except.error.inj heq) (hflaw _ _)
    next heq =>
      obtain rfl := Except.error.inj heq
      rfl
  | @division _ n d fault hn hset hd hfault =>
    obtain ⟨text, htext⟩ := textIssues_eq_ok hs v path
    obtain ⟨low, high, hbounds⟩ := checkNumber_bounds hs n v path
    have hmultiple : checkMultiple n v s.multipleOf path = .error (.arithmetic fault) := by
      unfold checkMultiple
      rw [hset, Bool.not_true, if_neg Bool.false_ne_true, hd]
      dsimp only
      rw [hfault]
    rw [checkScalar_eq, htext, numberIssues, hn]
    dsimp only
    rw [hbounds, hmultiple]
    rfl

/-- **What escapes a schema stops its check**: within any limit, validation of the value against the
schema stops for that reason. -/
theorem Escapes.validate_eq_error (hs : s.WellTyped) (h : s.Escapes v f) (registry : Registry)
    {limit : Int} (hlimit : 0 < limit) : validate registry (.schema s) v limit = .error f := by
  have hnull : v.isNull = false := by
    cases h with
    | timestamp => rfl
    | division hn => cases v <;> first | rfl | cases hn
    | pattern => rfl
  obtain ⟨depth, hdepth⟩ : ∃ depth, limit.toNat = depth + 1 := ⟨limit.toNat - 1, by omega⟩
  unfold validate
  rw [hdepth]
  unfold checkNode checkResolved checkSchema
  dsimp only
  rw [hnull, Bool.false_and, Bool.false_and, if_neg Bool.false_ne_true, if_neg Bool.false_ne_true,
    checkKeywords, h.checkScalar_eq_error hs]
  rfl

/-- Not-a-number is a multiple of nothing, and the division says so. -/
lemma isMultiple_nan (d : Number) : ∃ fault, (Number.float .nan).isMultiple d = .error fault := by
  have hquotient : (Number.float .nan).quotient d =
      d.toBinary64.map fun y => Binary64.nan.div y := by
    cases d with
    | int n =>
      unfold Number.quotient
      dsimp only
      cases (Number.int n).toBinary64 <;> rfl
    | float x => rfl
  have hnan : ∀ y, Binary64.nan.div y = .nan := fun y => rfl
  unfold Number.isMultiple
  rw [hquotient]
  cases d.toBinary64 with
  | error fault => exact ⟨fault, rfl⟩
  | ok y => exact ⟨.notANumber, by rw [Except.map, hnan]; rfl⟩

/-- A pattern can ask for more rounds than can be counted. -/
lemma ofText_tooManyRounds : CompiledPattern.ofText "a{4294967295}" = .error .tooManyRounds := by
  have h : (match CompiledPattern.ofText "a{4294967295}" with
      | .error .tooManyRounds => true
      | _ => false) = true := by decide +kernel
  split at h
  next heq => exact heq
  next => cases h

/-- **Which schemas are escaped**: some value escapes a well-typed schema exactly when it asks for
timestamps, for patterns, or for multiples. -/
lemma exists_escapes_iff (hs : s.WellTyped) : (∃ v f, s.Escapes v f) ↔
    s.format = .str "date-time" ∨ s.format = .str "regex" ∨ s.multipleOf.isTruthy = true := by
  constructor
  · rintro ⟨v, f, h⟩
    cases h with
    | timestamp hformat => exact .inl hformat
    | pattern hformat => exact .inr (.inl hformat)
    | division _ hset => exact .inr (.inr hset)
  · rintro (hformat | hformat | hset)
    · have hoff : Timestamp.parse "0001-01-01T00:00:00+01:00" = .error .offCalendar := by
        decide +kernel
      exact ⟨_, _, .timestamp hformat hoff⟩
    · exact ⟨_, _, .pattern hformat ofText_tooManyRounds fun flaw place h => by cases h⟩
    · rcases isNumeric_bound hs (v := s.multipleOf) (by simp) with hnull | ⟨d, hd⟩
      · rw [hnull] at hset
        cases hset
      · obtain ⟨fault, hfault⟩ := isMultiple_nan d
        exact ⟨.float .nan, _, .division rfl hset hd hfault⟩

end Keywords

end DataSchema
