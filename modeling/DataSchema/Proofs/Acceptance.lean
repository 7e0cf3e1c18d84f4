import DataSchema.Proofs.CastFailures
import DataSchema.Proofs.Keeping

set_option autoImplicit false

/-!
# Values that casts accept

A cast accepts a value if it does not fail with issues. By the shape of a schema, a JSON value that
conforms is accepted unless a check is repeated on what became of it and comes to another result: a
listed text has become a date, a whole double a whole number out of range, properties that are
counted have been left out, or items that differed have become the same.

## Main definitions

* `DataSchema.Casting.Accepts` — casts that do not fail with issues.
* `DataSchema.Registry.Repeats` — schemas whose checks can be repeated on what became of a value.

## Main results

* `DataSchema.Casting.castScalar_accepts`, `DataSchema.Casting.castObject_accepts`,
  `DataSchema.Casting.castArray_accepts` — scalars, objects and arrays.
* `DataSchema.Casting.castOwn_accepts` — values of any kind.
-/

namespace DataSchema

namespace Casting

open Validation Conformance

variable {α β : Type}

/-- A cast accepts its value: it does not fail with issues. -/
def Accepts (x : Casts α) : Prop := ∀ is, x.outcome ≠ .error (.issues is)

/-- Failures without issues. -/
def IsFault : CastFailure → Prop
  | .issues _ => False
  | .fault _ => True

/-- A cast accepts its value when it fails without issues only. -/
lemma accepts_iff {x : Casts α} : Accepts x ↔ FailsOnly IsFault x := by
  constructor
  · rintro h (is | f) he
    · exact h is he
    · trivial
  · exact fun h is his => h _ his

namespace Accepts

/-- A result is no failure. -/
lemma pure (a : α) : Accepts (Pure.pure a : Casts α) := accepts_iff.2 (.pure a)

/-- What comes to a result does not fail. -/
lemma of_outcome_ok {x : Casts α} {a : α} (h : x.outcome = .ok a) : Accepts x := fun is his => by
  rw [h] at his
  cases his

/-- Casts in a row accept when each does. -/
lemma bind {x : Casts α} {g : α → Casts β} (hx : Accepts x)
    (hg : ∀ a, x.outcome = .ok a → Accepts (g a)) : Accepts (x >>= g) :=
  accepts_iff.2 ((accepts_iff.1 hx).bind_result fun a ha => accepts_iff.1 (hg a ha))

/-- Casts of several things accept when each does. -/
lemma mapM {xs : List α} {g : α → Casts β} (h : ∀ x ∈ xs, Accepts (g x)) :
    Accepts (xs.mapM g) :=
  accepts_iff.2 (.mapM fun x hx => accepts_iff.1 (h x hx))

/-- A check as a cast has faults only. -/
lemma guarded (x : Except Fault α) : Accepts (Casting.guarded x) :=
  accepts_iff.2 (.guarded fun _ _ => trivial)

/-- A requirement is no failure if its check finds nothing. -/
lemma require {check : Check} (h : ∀ is, check = .ok is → is = []) :
    Accepts (Casting.require check) :=
  accepts_iff.2 (.require (fun _ _ => trivial) fun is his hsome => hsome (h is his))

/-- An attempt does not fail. -/
lemma attempt (x : Casts Value) : Accepts (Casting.attempt x) := by
  obtain ⟨events, (is | f) | v⟩ := x <;> exact fun _ h => by cases h

end Accepts

variable {T : String → Prop} {F : Binary64 → Prop} {child : NodeCaster} {check : NodeChecker}
  {s : Schema} {v own r : Value} {path : Path} {active : List String}

/-! ## Scalars -/

/-- A JSON value is no date. -/
lemma isTemporal_of_isJsonOf (hv : v.IsJsonOf T F) (format : Value) :
    isTemporal format v = false := by
  cases hv <;> exact isTemporal_eq_false (by simp) (by simp) format

/-- A value of the right type is converted by the type. -/
lemma castTyped_accepts (hv : v.IsJsonOf T F) (htype : meetsType s v = true) :
    Accepts (castTyped s v path) := by
  rw [← hasType_eq_meetsType] at htype
  rcases ConvertsByType.of_hasType htype (isTemporal_of_isJsonOf hv s.format) with
    hkept | ⟨x, n, -, -, hwhole⟩
  · exact .of_outcome_ok (castTyped_outcome_ok.2 hkept)
  · exact .of_outcome_ok (castTyped_outcome_ok.2 hwhole)

/-- A JSON value that is no text is converted by the type, whether texts become dates or not. -/
lemma castScalar_eq_of_notText (hv : v.IsJsonOf T F) (htext : ∀ text, v ≠ .str text) :
    castScalar s v path = castTyped s v path :=
  castScalar_of_notText htext (isTemporal_of_isJsonOf hv s.format)

/-- A text of the format is turned into a date. -/
lemma castScalar_temporal {text : String} (path : Path) (hdates : asksForDates s = true)
    (hformat : meetsFormat s.format (.str text) = true) :
    ∃ r, (castScalar s (.str text) path).outcome = .ok r ∧ r.str? = none ∧ r.number? = none := by
  rcases format_of_asksForDates hdates with hname | hname
  · rw [hname] at hformat
    have hparse : (Timestamp.parse text).toBool = true := hformat
    cases ht : Timestamp.parse text with
    | ok t =>
      exact ⟨.dateTime t, castScalar_outcome_ok.2 (.timestamp hdates hname ht), rfl, rfl⟩
    | error e =>
      rw [ht] at hparse
      cases hparse
  · rw [hname] at hformat
    have hparse : (parseDate (.str text)).toBool = true := hformat
    cases hd : parseDate (.str text) with
    | ok d => exact ⟨.date d, castScalar_outcome_ok.2 (.day hdates hname hd), rfl, rfl⟩
    | error e =>
      rw [hd] at hparse
      cases hparse

/-- A text that conforms is one of those that are listed. -/
lemma mem_of_meetsEnum {text : String} {members : List Value} (henum : s.enum = some members)
    (h : meetsEnum s (.str text) = true) : .str text ∈ members := by
  rw [meetsEnum, henum] at h
  obtain ⟨u, hu, heq⟩ := List.any_eq_true.1 h
  cases u with
  | str text' =>
    have htext : text = text' := by simpa [Value.jsonEqual, Value.equal] using heq
    rwa [htext]
  | _ => simp [Value.jsonEqual, Value.equal] at heq

/-- What a text that conforms is turned into meets the same rules, if no listed text becomes a
date. -/
lemma castScalar_text_meets {text : String} (htext : T text) (htype : meetsType s (.str text) = true)
    (henum : meetsEnum s (.str text) = true) (hscalar : meetsScalar s (.str text) = true)
    (hdates : asksForDates s = true → ∀ members, s.enum = some members →
      ∀ text, .str text ∉ members)
    (h : (castScalar s (.str text) path).outcome = .ok r) :
    meetsEnum s r = true ∧ meetsScalar s r = true := by
  cases hasks : asksForDates s with
  | false =>
    rw [castScalar_text hasks (.inl htype) htext h]
    exact ⟨henum, hscalar⟩
  | true =>
    simp only [meetsScalar, Bool.and_eq_true] at hscalar
    obtain ⟨r', hr', hstr, hnumber⟩ := castScalar_temporal path hasks hscalar.2
    rw [h] at hr'
    obtain rfl := Except.ok.inj hr'
    have hnone : s.enum = none := by
      cases hmembers : s.enum with
      | none => rfl
      | some members =>
        exact absurd (mem_of_meetsEnum hmembers henum) (hdates hasks members hmembers text)
    refine ⟨by rw [meetsEnum, hnone], ?_⟩
    -- the rules for texts and numbers say nothing about dates
    rw [meetsScalar, hstr, hnumber, meetsFormat_of_not]
    · rfl
    · rintro text rfl
      cases hstr
    · rintro n rfl
      cases hnumber

/-- **A value that conforms is converted to one that meets the same rules**, if no listed text
becomes a date and no whole double a number out of range. -/
lemma castScalar_meets (hv : v.IsJsonOf T F) (htype : meetsType s v = true)
    (henum : meetsEnum s v = true) (hscalar : meetsScalar s v = true)
    (hdates : asksForDates s = true → ∀ members, s.enum = some members →
      ∀ text, .str text ∉ members)
    (hwhole : s.type = some .integer → ∀ x, F x → s.Conflates x)
    (h : (castScalar s v path).outcome = .ok r) :
    meetsEnum s r = true ∧ meetsScalar s r = true := by
  by_cases htext : ∃ text, v = .str text
  · obtain ⟨text, rfl⟩ := htext
    cases hv with
    | str htext => exact castScalar_text_meets htext htype henum hscalar hdates h
  · rw [castScalar_eq_of_notText hv fun text heq => htext ⟨text, heq⟩] at h
    rcases castTyped_notText (fun text heq => htext ⟨text, heq⟩) h with
      rfl | ⟨hinteger, x, n, rfl, hn, rfl⟩
    · exact ⟨henum, hscalar⟩
    · have hx : F x := by
        cases hv with
        | float hx => exact hx
      have halike : (Value.float x).Alike (.int n) := .whole hn
      have hjson : (Value.float x).IsJsonOf T (fun y => y = x) := .float rfl
      rw [← meetsEnum_alike halike hjson, ← meetsScalar_alike halike hjson
        fun y hy => hy ▸ hwhole hinteger x hx]
      exact ⟨henum, hscalar⟩

/-- A value that conforms is converted. -/
lemma castScalar_accepts (hv : v.IsJsonOf T F) (htype : meetsType s v = true)
    (hscalar : meetsScalar s v = true) : Accepts (castScalar s v path) := by
  by_cases htext : ∃ text, v = .str text
  · obtain ⟨text, rfl⟩ := htext
    cases hasks : asksForDates s with
    | false =>
      rw [castScalar_eq_castTyped hasks]
      exact castTyped_accepts hv htype
    | true =>
      simp only [meetsScalar, Bool.and_eq_true] at hscalar
      obtain ⟨r, hr, -⟩ := castScalar_temporal path hasks hscalar.2
      exact .of_outcome_ok hr
  · rw [castScalar_eq_of_notText hv fun text heq => htext ⟨text, heq⟩]
    exact castTyped_accepts hv htype

/-- What meets the rules for scalars is accepted. -/
lemma requireScalar_accepts (henum : meetsEnum s r = true) (hscalar : meetsScalar s r = true) :
    Accepts (require do
      let scalar ← checkScalar s r path
      return checkEnum s r path ++ scalar) := by
  refine .require fun is his => ?_
  obtain ⟨scalar, hcheck, his⟩ := bind_eq_ok.1 his
  obtain rfl := Except.ok.inj his
  rw [checkEnum_eq_nil.2 henum, (checkScalar_eq_nil hcheck).2 hscalar, List.nil_append]

/-! ## Counts -/

/-- A number of things within its bounds is accepted. -/
lemma requireCount_accepts {count : Nat} {least most : Value} {container things : String}
    (hleast : atLeast (.int count) least = true) (hmost : noMoreThan (.int count) most = true) :
    Accepts (requireCount count least most container things path) := by
  unfold requireCount
  refine .bind (.guarded _) fun few hfew => ?_
  rw [(below_eq (guarded_outcome_ok.1 hfew)).2 hleast, if_neg Bool.false_ne_true]
  refine .bind (.guarded _) fun many hmany => ?_
  rw [(above_eq (guarded_outcome_ok.1 hmany)).2 hmost, if_neg Bool.false_ne_true]
  exact .pure ()

/-- Fewer things than are allowed are allowed. -/
lemma noMoreThan_of_le {m n : Nat} {most : Value} (hmn : m ≤ n)
    (h : noMoreThan (.int n) most = true) : noMoreThan (.int m) most = true := by
  unfold noMoreThan at h ⊢
  cases hoperand : most.operand? with
  | none => rfl
  | some b =>
    rw [hoperand] at h
    dsimp only at h ⊢
    rw [Bool.not_eq_true'] at h ⊢
    unfold Number.less at h ⊢
    cases hb : b.extent? with
    | none => rfl
    | some e =>
      rw [hb] at h
      cases e with
      | bottom => cases h
      | top => rfl
      | «at» units =>
        simp only [Number.extent?, Extent.less, decide_eq_false_iff_not, Int.not_lt] at h ⊢
        have hunits : (m : Int) * Binary64.one ≤ n * Binary64.one :=
          Int.mul_le_mul_of_nonneg_right (by omega) (by omega)
        omega

/-! ## Objects -/

section object

variable {data declared others : Entries}

/-- No name is missing when every one is there. -/
lemma missingNames_of_has {names missing : List Value}
    (hall : ∀ n ∈ names, data.has n = true) (h : missingNames data names = .ok missing) :
    missing = [] := by
  induction names generalizing missing with
  | nil => exact (Except.ok.inj h).symm
  | cons n names ih =>
    unfold missingNames at h
    split at h
    next => cases h
    next =>
      obtain ⟨rest, hrest, h⟩ := bind_eq_ok.1 h
      obtain rfl := ih (fun m hm => hall m (List.mem_cons_of_mem n hm)) hrest
      rw [hall n List.mem_cons_self, if_pos rfl] at h
      exact (Except.ok.inj h).symm

/-- Required names that are there are accepted. -/
lemma requireNames_accepts (hall : ∀ n ∈ s.required, data.has n = true) :
    Accepts (requireNames s data path) := by
  unfold requireNames
  refine .bind (.guarded _) fun missing hmissing => ?_
  rw [missingNames_of_has hall (guarded_outcome_ok.1 hmissing)]
  exact .pure ()

/-- Declared properties are accepted when each of those that are there is. -/
lemma castDeclared_accepts {ps : List (String × Node)}
    (hchild : ∀ p ∈ ps, ∀ w, data.get? (.str p.1) = some w → ∀ q, Accepts (child p.2 w q active)) :
    Accepts (castDeclared child data path active ps) := by
  induction ps with
  | nil => exact .pure []
  | cons p ps ih =>
    have hrest := ih fun p' hp' => hchild p' (List.mem_cons_of_mem p hp')
    unfold castDeclared
    split
    next => exact hrest
    next w hw =>
      exact .bind (hchild p List.mem_cons_self w hw _) fun _ _ => .bind hrest fun _ _ => .pure _

/-- Undeclared properties are accepted when each is. -/
lemma castExtra_accepts {extra : Entries} (hchild : ∀ c, s.additional = .schema c → ∀ e ∈ extra,
    ∀ q, Accepts (child c e.2 q active)) : Accepts (castExtra child s extra path active) := by
  cases hnode : s.additional.node? with
  | none =>
    rw [castExtra_eq_pure hnode]
    exact .pure _
  | some c =>
    have hadditional := Additional.node?_eq_some.1 hnode
    unfold castExtra
    rw [hadditional]
    exact .mapM fun e he => .bind (hchild c hadditional e he _) fun _ _ => .pure _

/-- A cast of an object makes no property that is not there. -/
lemma castObject_length_le (hdata : data.Named) (hnames : (s.declared.map Prod.fst).Nodup)
    (hdeclared : (castDeclared child data path active s.declared).outcome = .ok declared)
    (hothers : (castExtra child s (undeclared s data) path active).outcome = .ok others) :
    (declared ++ others).length ≤ data.length := by
  refine (castObject_named hdata hnames hdeclared hothers).length_le fun name hname => ?_
  rcases castObject_get? hdata hdeclared hothers name with ⟨hnone, -⟩ | ⟨v, r, hv, -, -⟩
  · rw [hnone] at hname
    cases hname
  · rw [hv]
    rfl

/-- **Objects that conform are accepted**, if properties that have to be counted are not left out
and the properties are accepted. -/
lemma castObject_accepts {test : NodeTest} (hdata : data.Named)
    (hmeets : meetsEntries test s data = true) (hnames : (s.declared.map Prod.fst).Nodup)
    (hfew : s.minProperties.isNull = true ∨ keepsExtra s = true ∨ s.additional = .flag false)
    (hchild : ∀ name w c, data.get? (.str name) = some w → s.propertyNode? name = some c →
      ∀ q, Accepts (child c w q active)) :
    Accepts (castObject child s (.mapping data) path active) := by
  simp only [meetsEntries, Bool.and_eq_true] at hmeets
  obtain ⟨⟨⟨⟨-, hrequired⟩, hadditional⟩, hleast⟩, hmost⟩ := hmeets
  have hrefuse : s.additional = .flag false → undeclared s data = [] := by
    intro hforbidden
    rw [meetsAdditional, hforbidden] at hadditional
    refine List.filter_eq_nil_iff.2 fun e he => ?_
    rw [List.all_eq_true.1 hadditional e he]
    exact Bool.false_ne_true
  show Accepts (requireNames s data path >>= _)
  refine .bind (requireNames_accepts (List.all_eq_true.1 hrequired)) fun _ _ => ?_
  refine .bind (.of_outcome_ok (refuseExtra_outcome_ok.2 hrefuse)) fun _ _ => ?_
  refine .bind (castDeclared_accepts fun p hp w hw =>
    hchild p.1 w p.2 hw (Keywords.propertyNode?_declared hnames hp)) fun declared hdeclared => ?_
  refine .bind (castExtra_accepts fun c hc e he => ?_) fun others hothers => ?_
  · obtain ⟨name, -, hget, hnode⟩ := Keywords.propertyNode?_undeclared hdata hc he
    exact hchild name e.2 c hget hnode
  have hle := castObject_length_le hdata hnames hdeclared hothers
  refine .bind (requireCount_accepts ?_ (noMoreThan_of_le hle hmost)) fun _ _ => .pure _
  rcases hfew with hnull | hextra
  · rw [atLeast, operand_of_isNull hnull]
  · rwa [castObject_length hdata hnames hextra hrefuse hdeclared hothers]

end object

/-! ## Arrays -/

/-- **Arrays that conform are accepted**, if items that must not repeat each other are kept and the
items are accepted. -/
lemma castArray_accepts {test : NodeTest} {items : List Value}
    (hv : (Value.list items).IsJsonOf T F) (hmeets : meetsItems test s items = true)
    (hunique : s.uniqueItems.isTruthy = true → ∀ c, s.items = some c → ∀ w ∈ items, ∀ q r,
      (child c w q active).outcome = .ok r → w.Alike r)
    (hchild : ∀ c, s.items = some c → ∀ w ∈ items, ∀ q, Accepts (child c w q active)) :
    Accepts (castArray child s (.list items) path active) := by
  simp only [meetsItems, Bool.and_eq_true] at hmeets
  obtain ⟨⟨⟨-, hleast⟩, hmost⟩, hdistinct⟩ := hmeets
  show Accepts (castItems child s items path active >>= _)
  refine .bind ?_ fun result hresult => ?_
  · unfold castItems
    split
    next => exact .pure items
    next c hc =>
      refine .mapM fun item hitem => hchild c hc item.1 ?_ _
      exact List.mem_of_getElem? (List.mem_zipIdx_iff_getElem?.1 hitem)
  have hlength := castItems_length hresult
  refine .bind (requireCount_accepts (by rwa [hlength]) (by rwa [hlength])) fun _ _ => ?_
  refine .bind (.of_outcome_ok (requireUnique_outcome_ok.2 ?_)) fun _ _ => .pure _
  rw [checkUnique_eq_nil]
  cases htruthy : s.uniqueItems.isTruthy with
  | false => rfl
  | true =>
    rw [htruthy] at hdistinct
    obtain ⟨hlength, hall⟩ := castItems_related .same
      (fun w hw c hc => hunique htruthy c hc w hw) hresult
    rw [← areDistinct_alike hlength hall fun w => hv.item rfl]
    exact hdistinct

/-! ## Members of a composition -/

/-- Members of a composition accept an object if they accept all that is like it, and keep it. -/
lemma castMembers_accepts {es merged source : Entries} {nodes : List Node} (hes : es.Named)
    (hsource : (Value.mapping es).Alike (.mapping source))
    (hchild : ∀ c ∈ nodes, ∀ w, (Value.mapping es).Alike w →
      Accepts (child c w path active) ∧
        ∀ r, (child c w path active).outcome = .ok r → w.Alike r) :
    Accepts (castMembers child path active merged source nodes) := by
  induction nodes generalizing merged source with
  | nil => exact .pure _
  | cons c cs ih =>
    obtain ⟨haccepts, hkeeps⟩ := hchild c List.mem_cons_self _ hsource
    unfold castMembers
    refine .bind haccepts fun part hpart => ?_
    have halike := hsource.trans (hkeeps part hpart)
    obtain ⟨ps, rfl⟩ := halike.eq_mapping
    exact ih ((Entries.PartOf.of_alike hes hsource).merge_alike hes halike)
      fun c hc => hchild c (List.mem_cons_of_mem _ hc)

/-- Nodes accept a value one after another if they accept values of a kind, and make such values of
them. -/
lemma castInTurn_accepts {P : Value → Prop} {w : Value} {nodes : List Node} (hw : P w)
    (hchild : ∀ c ∈ nodes, ∀ w, P w → Accepts (child c w path active) ∧
      ∀ r, (child c w path active).outcome = .ok r → P r) :
    Accepts (castInTurn child path active w nodes) := by
  induction nodes generalizing w with
  | nil => exact .pure w
  | cons c cs ih =>
    obtain ⟨haccepts, hkeeps⟩ := hchild c List.mem_cons_self w hw
    exact .bind haccepts fun r hr => ih (hkeeps r hr)
      fun c hc => hchild c (List.mem_cons_of_mem _ hc)

/-- **All members of a composition accept a value** if they accept all that is like it, and keep
it. -/
lemma castAllOf_accepts (hv : v.IsJsonOf T F) (hown : v.Alike own)
    (hchild : ∀ c ∈ s.allOfList, ∀ w, v.Alike w → Accepts (child c w path active) ∧
      ∀ r, (child c w path active).outcome = .ok r → w.Alike r) :
    Accepts (castAllOf child s v own path active) := by
  unfold castAllOf
  split
  next => exact .pure own
  next =>
    split
    next hobject =>
      obtain ⟨es, rfl⟩ := hv.of_isObject hobject
      obtain ⟨fs, rfl⟩ := hown.eq_mapping
      exact castMembers_accepts hv.named
        ((Entries.PartOf.of_alike hv.named (.same _)).merge_alike hv.named hown) hchild
    next =>
      refine castInTurn_accepts (P := v.Alike) hown fun c hc w hw => ?_
      obtain ⟨haccepts, hkeeps⟩ := hchild c hc w hw
      exact ⟨haccepts, fun r hr => hw.trans (hkeeps r hr)⟩

/-! ## Alternatives -/

/-- An alternative is chosen if there is one that accepts the value and whose result, if there is
one, conforms as far as that can be checked.

**Proof sketch.** Induction on the alternatives. The one that accepts is chosen unless one before it
is: it is not passed over, neither for a failure, which would be a fault, nor for its result. -/
lemma firstMatch_ne_none {source : Value} {index : Nat} {nodes : List Node} {c : Node}
    (hc : c ∈ nodes) (haccepts : Accepts (child c source path active))
    (hfits : ∀ r, (child c source path active).outcome = .ok r →
      ∀ is, check c r path = .ok is → is = []) :
    (firstMatch child check source path active index nodes).outcome ≠ .ok none := by
  induction nodes generalizing index with
  | nil => cases hc
  | cons c' cs ih =>
    unfold firstMatch
    intro h
    obtain ⟨result?, hattempt, h⟩ := bind_outcome_ok.1 h
    rcases List.mem_cons.1 hc with rfl | hc
    · rcases attempt_outcome_ok.1 hattempt with ⟨r, hr, rfl⟩ | ⟨is, his, -⟩
      · obtain ⟨fits, hcheck, h⟩ := bind_outcome_ok.1 h
        obtain ⟨is, his, rfl⟩ := map_eq_ok.1 (guarded_outcome_ok.1 hcheck)
        rw [hfits r hr is his, List.isEmpty_nil, if_pos rfl] at h
        cases h
      · exact haccepts is his
    · cases result? with
      | none => exact ih hc h
      | some r =>
        obtain ⟨fits, -, h⟩ := bind_outcome_ok.1 h
        cases fits with
        | true => cases h
        | false => exact ih hc h

/-- To look for an alternative is no failure. -/
lemma firstMatch_accepts {source : Value} {index : Nat} {nodes : List Node} :
    Accepts (firstMatch child check source path active index nodes) := by
  induction nodes generalizing index with
  | nil => exact .pure none
  | cons c cs ih =>
    unfold firstMatch
    refine .bind (.attempt _) fun result? _ => ?_
    cases result? with
    | none => exact ih
    | some r =>
      refine .bind (.guarded _) fun fits _ => ?_
      cases fits with
      | true => exact .pure _
      | false => exact ih

/-- One of the alternatives that are tried conforms, if all keywords are met. -/
lemma alternative_meets {test : NodeTest} (hmeets : meetsKeywords test s v = true)
    (hsome : s.hasAlternatives = true) : ∃ c ∈ alternatives s, test c v = true := by
  simp only [meetsKeywords, meetsComposition, Bool.and_eq_true] at hmeets
  obtain ⟨-, ⟨⟨-, hany⟩, hone⟩, -⟩ := hmeets
  unfold alternatives
  cases hempty : s.oneOfList.isEmpty with
  | true =>
    rw [if_pos rfl]
    have hanyOf : s.anyOfList.isEmpty = false := by
      simpa [Keywords.hasAlternatives, hempty] using hsome
    rw [hanyOf, Bool.false_or] at hany
    exact List.any_eq_true.1 hany
  | false =>
    rw [if_neg Bool.false_ne_true]
    rw [hempty, Bool.false_or, beq_iff_eq] at hone
    exact List.countP_pos_iff.1 (by omega)

/-- **Alternatives accept a value** if one of them does, and its result conforms to it as far as
that can be checked. -/
lemma castAlternative_accepts
    (hchoice : s.hasAlternatives = true → ∃ c ∈ alternatives s,
      Accepts (child c (if v.isObject then .mapping (overlay v own) else own) path active) ∧
      ∀ r, (child c (if v.isObject then .mapping (overlay v own) else own) path active).outcome =
        .ok r → ∀ is, check c r path = .ok is → is = []) :
    Accepts (castAlternative child check s v own path active) := by
  unfold castAlternative
  split
  next hsome =>
    obtain ⟨c, hc, haccepts, hfits⟩ := hchoice hsome
    refine .bind firstMatch_accepts fun choice? hchoice => ?_
    cases choice? with
    | none => exact absurd hchoice (firstMatch_ne_none hc haccepts hfits)
    | some choice => exact .bind (.of_outcome_ok rfl) fun _ _ => .pure _
  next => exact .pure own

end Casting

/-! ## Values of any kind -/

/-- The checks of a schema come to the same for what it makes of a value that conforms. Texts that
it lists do not become dates, whole doubles are as good as the whole numbers that they become,
properties that it counts are not left out, and items that must not repeat each other are kept. -/
structure Registry.Repeats (registry : Registry) (T : String → Prop) (F : Binary64 → Prop)
    (s : Schema) : Prop where
  /-- No listed value is a text that becomes a date. -/
  dates : Casting.asksForDates s = true → ∀ members, s.enum = some members →
    ∀ text, .str text ∉ members
  /-- Whole numbers are as good as whole doubles. -/
  whole : s.type = some .integer → ∀ x, F x → s.Conflates x
  /-- Properties that must not be too few are not left out. -/
  few : s.minProperties.isNull = true ∨ Casting.keepsExtra s = true ∨ s.additional = .flag false
  /-- Items that must not repeat each other are kept. -/
  unique : s.uniqueItems.isTruthy = true → ∀ c, s.items = some c → registry.Keeps T F c

namespace Casting

open Validation Conformance

variable {T : String → Prop} {F : Binary64 → Prop} {context : CastContext} {depth : Nat}
  {s : Schema} {v : Value} {path : Path} {active : List String}

/-- What the nodes below a schema accept: all values that conform to them. -/
def AcceptsBelow (T : String → Prop) (F : Binary64 → Prop) (context : CastContext) (depth : Nat)
    (s : Schema) : Prop :=
  ∀ c ∈ s.castNodes, ∀ w q active, w.IsJsonOf T F → conforms context.registry depth c w = true →
    Accepts (castNode context depth c w q active)

/-- A value of the right type that is cast as an object is one. -/
lemma isObject_of_castsObject (hcasts : castsObject s v = true) (htype : meetsType s v = true) :
    v.isObject = true := by
  rcases castsObject_eq_true.1 hcasts with hs | ⟨-, -, hobject⟩
  · unfold meetsType at htype
    rwa [hs] at htype
  · exact hobject

/-- A value of the right type that is cast as an array is one. -/
lemma isArray_of_castsArray (hcasts : castsArray s v = true) (htype : meetsType s v = true) :
    v.isArray = true := by
  rcases castsArray_eq_true.1 hcasts with hs | ⟨-, -, harray⟩
  · unfold meetsType at htype
    rwa [hs] at htype
  · exact harray

/-- **An array that conforms is accepted** by the shape of a schema whose checks can be repeated, if
the node for items accepts what conforms to it. -/
lemma castArray_accepts_below {items : List Value} (hv : (Value.list items).IsJsonOf T F)
    (hitems : meetsItems (conforms context.registry depth) s items = true)
    (hrepeats : context.registry.Repeats T F s)
    (hdirect : ∀ t, context.registry.Reaches Keywords.castNodes (.schema s) t → t.IsDirect)
    (hbelow : AcceptsBelow T F context depth s) :
    Accepts (castArray (castNode context depth) s (.list items) path active) := by
  have hitem : ∀ c, s.items = some c → ∀ w ∈ items,
      conforms context.registry depth c w = true := by
    intro c hc w hw
    simp only [meetsItems, hc, Option.all_some, Bool.and_eq_true] at hitems
    exact List.all_eq_true.1 hitems.1.1.1 w hw
  have hmem : ∀ c, s.items = some c → c ∈ s.castNodes := fun c hc =>
    Keywords.mem_castNodes_of_part (Keywords.mem_partNodes_items hc)
  refine castArray_accepts hv hitems (fun htruthy c hc w hw q r hcast => ?_) fun c hc w hw q => ?_
  · exact castNode_alike (fun t ht => hdirect t (.child (hmem c hc) ht))
      (hrepeats.unique htruthy c hc) (hv.item rfl hw) (.inl (hitem c hc w hw)) hcast
  · exact hbelow c (hmem c hc) w q active (hv.item rfl hw) (hitem c hc w hw)

/-- **By the shape of a schema a value that conforms is accepted**, if the checks of the schema come
to the same for what becomes of the value, and the nodes below accept what conforms to them. -/
lemma castOwn_accepts (hv : v.IsJsonOf T F)
    (hmeets : meetsKeywords (conforms context.registry depth) s v = true)
    (hrepeats : context.registry.Repeats T F s)
    (hdirect : ∀ t, context.registry.Reaches Keywords.castNodes (.schema s) t → t.IsDirect)
    (hbelow : AcceptsBelow T F context depth s) :
    Accepts (castOwn (castNode context depth) s v path active) := by
  simp only [meetsKeywords, Bool.and_eq_true] at hmeets
  obtain ⟨⟨⟨⟨⟨htype, henum⟩, hscalar⟩, hobject⟩, harray⟩, -⟩ := hmeets
  unfold castOwn
  split
  next hcasts =>
    obtain ⟨data, rfl⟩ := hv.of_isObject (isObject_of_castsObject hcasts htype)
    have hentries : meetsEntries (conforms context.registry depth) s data = true := hobject
    refine castObject_accepts hv.named hentries (hdirect s (.here s)).names hrepeats.few
      fun name w c hw hc q => ?_
    exact hbelow c (Keywords.mem_castNodes_of_part (Keywords.mem_partNodes_property hc)) w q active
      (hv.property (Entries.mem_of_get? hw)) (Keywords.property_meets hentries hw hc)
  next =>
    split
    next hcasts =>
      have his := isArray_of_castsArray hcasts htype
      cases hv with
      | list hall => exact castArray_accepts_below (.list hall) harray hrepeats hdirect hbelow
      | _ => cases his
    next =>
      refine .bind (castScalar_accepts hv htype hscalar) fun r hr => ?_
      obtain ⟨henum', hscalar'⟩ :=
        castScalar_meets hv htype henum hscalar hrepeats.dates hrepeats.whole hr
      exact .bind (requireScalar_accepts henum' hscalar') fun _ _ => .pure r

end Casting

end DataSchema
