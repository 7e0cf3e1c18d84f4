import DataSchema.Proofs.Conversions
import DataSchema.Proofs.Outcome
import DataSchema.Proofs.Reachability
import DataSchema.Proofs.TextKeys
import DataSchema.Casting

set_option autoImplicit false

/-!
# Steps of a cast

When the single steps of a cast succeed, and with what. Later proofs about whole casts take these
equivalences in place of the definitions.

## Main definitions

* `DataSchema.TargetType.resolve?` — the record type that a target stands for.
* `DataSchema.Casting.refuseMatch` — the second part of `DataSchema.Casting.requireWhole`.
* `DataSchema.Casting.keepsExtra` — whether undeclared properties are kept.
* `DataSchema.Casting.verdict` — what a cast comes to as a whole.

## Main results

* `DataSchema.Casting.require_outcome_ok`, `DataSchema.Casting.requireCount_outcome_ok` —
  requirements succeed when the checks behind them find nothing.
* `DataSchema.Casting.requireWhole_eq` — what is asked of a composed value, in two parts.
* `DataSchema.Casting.castObject_outcome_ok`, `DataSchema.Casting.castArray_outcome_ok`,
  `DataSchema.Casting.castComposed_outcome_ok` — what casts of objects, of arrays and by schemas
  come from.
* `DataSchema.Casting.castComposed_uncomposed` — casts by schemas that are not composed.
-/

namespace DataSchema

/-- The record type that a target stands for, if it stands for one. -/
def TargetType.resolve? (types : TypeMap) : TargetType → Option RecordType
  | absent => none
  | tagged tag => types.get? tag
  | type t => some t

namespace Casting

variable {α β : Type}

/-- Two casts in a row succeed when both do. -/
lemma bind_outcome_ok {x : Casts α} {f : α → Casts β} {b : β} :
    (x >>= f).outcome = .ok b ↔ ∃ a, x.outcome = .ok a ∧ (f a).outcome = .ok b := by
  rw [Traced.outcome_bind, bind_eq_ok]

/-- Two casts in a row fail with the failure of the first, or else of the second. -/
lemma bind_outcome_error {x : Casts α} {f : α → Casts β} {e : CastFailure} :
    (x >>= f).outcome = .error e ↔
      x.outcome = .error e ∨ ∃ a, x.outcome = .ok a ∧ (f a).outcome = .error e := by
  rw [Traced.outcome_bind, bind_eq_error]

/-- A check as a cast succeeds when the check does. -/
lemma guarded_outcome_ok {x : Except Fault α} {a : α} :
    (guarded x).outcome = .ok a ↔ x = .ok a :=
  mapError_eq_ok

/-- A check as a cast fails with the fault of the check. -/
lemma guarded_outcome_error {x : Except Fault α} {e : CastFailure} :
    (guarded x).outcome = .error e ↔ ∃ f, x = .error f ∧ CastFailure.fault f = e :=
  mapError_eq_error

/-- A requirement is met when its check finds nothing. -/
lemma require_outcome_ok {check : Check} :
    (require check).outcome = .ok () ↔ check = .ok [] := by
  unfold require
  simp only [bind_outcome_ok, guarded_outcome_ok]
  constructor
  · rintro ⟨is, his, h⟩
    cases is with
    | nil => exact his
    | cons i is => cases h
  · exact fun h => ⟨[], h, rfl⟩

/-- A requirement stops with the fault of its check. -/
lemma require_outcome_fault {check : Check} {f : Fault} :
    (require check).outcome = .error (.fault f) ↔ check = .error f := by
  unfold require
  simp only [bind_outcome_error, guarded_outcome_error, guarded_outcome_ok]
  constructor
  · rintro (⟨g, hg, h⟩ | ⟨is, -, h⟩)
    · cases h
      exact hg
    · cases is <;> cases h
  · exact fun h => .inl ⟨f, h, rfl⟩

/-- A number of things is as it is asked for when it is neither below nor above the bounds. -/
lemma requireCount_outcome_ok {count : Nat} {least most : Value} {container things : String}
    {path : Path} :
    (requireCount count least most container things path).outcome = .ok () ↔
      Validation.below count least = .ok false ∧ Validation.above count most = .ok false := by
  unfold requireCount
  simp only [bind_outcome_ok, guarded_outcome_ok]
  constructor
  · rintro ⟨few, hfew, h⟩
    cases few with
    | true => cases h
    | false =>
      obtain ⟨many, hmany, h⟩ := bind_outcome_ok.1 h
      rw [guarded_outcome_ok] at hmany
      cases many with
      | true => cases h
      | false => exact ⟨hfew, hmany⟩
  · rintro ⟨hfew, hmany⟩
    exact ⟨false, hfew, bind_outcome_ok.2 ⟨false, guarded_outcome_ok.2 hmany, rfl⟩⟩

/-- Fails if a value conforms to the schema that it must not conform to. -/
def refuseMatch (check : NodeChecker) (s : Schema) (v : Value) (path : Path) : Casts Unit :=
  match s.notSchema with
  | none => pure ()
  | some node => do
    if ← guarded (Validation.conforms check node v path) then
      failCast Validation.unexpectedMatchMessage path

/-- What is asked of a composed value: to conform to the schema without its alternatives, and not
to conform to what it must not conform to. -/
lemma requireWhole_eq (check : NodeChecker) (s : Schema) (v : Value) (path : Path) :
    requireWhole check s v path =
      (if s.isComposed then require (check (.schema s.withoutAlternatives) v path)
        else pure ()) >>= fun _ => refuseMatch check s v path := by
  unfold requireWhole refuseMatch
  cases s.isComposed <;> cases s.notSchema <;> rfl

/-- A cast goes on exactly where what must not match does not. -/
lemma refuseMatch_outcome_ok {check : NodeChecker} {s : Schema} {v : Value} {path : Path} :
    (refuseMatch check s v path).outcome = .ok () ↔
      Validation.checkNot check s v path = .ok [] := by
  unfold refuseMatch Validation.checkNot
  cases s.notSchema with
  | none => exact ⟨fun _ => rfl, fun _ => rfl⟩
  | some node =>
    dsimp only
    rw [bind_outcome_ok, bind_eq_ok]
    refine exists_congr fun matching => and_congr guarded_outcome_ok ?_
    cases matching with
    | true => exact ⟨nofun, nofun⟩
    | false => exact ⟨fun _ => rfl, fun _ => rfl⟩

/-! ## Objects -/

/-- Whether a cast keeps properties that are not declared. -/
def keepsExtra (s : Schema) : Bool :=
  match s.additional with
  | .unspecified => s.properties.isNone
  | .flag allowed => allowed
  | .schema _ => true

section

variable {child : NodeCaster} {s : Schema} {data : Entries} {path : Path} {active : List String}

/-- No name is missing when every one is a key that is present. -/
lemma missingNames_eq_ok_nil {names : List Value} :
    missingNames data names = .ok [] ↔ ∀ n ∈ names, n.isKey = true ∧ data.has n = true := by
  induction names with
  | nil => simp [missingNames]
  | cons n names ih =>
    rw [missingNames, List.forall_mem_cons, ← ih]
    cases n.isKey with
    | false => simp
    | true =>
      cases missingNames data names with
      | error f => simp [bind, Except.bind]
      | ok others => cases data.has n <;> simp [bind, Except.bind]

/-- Required names are there when every one is a key that is present. -/
lemma requireNames_outcome_ok :
    (requireNames s data path).outcome = .ok () ↔
      ∀ n ∈ s.required, n.isKey = true ∧ data.has n = true := by
  rw [← missingNames_eq_ok_nil, requireNames, bind_outcome_ok]
  simp only [guarded_outcome_ok]
  constructor
  · rintro ⟨missing, hmissing, h⟩
    cases missing with
    | nil => exact hmissing
    | cons n names =>
      rw [List.isEmpty_cons, if_neg Bool.false_ne_true] at h
      split at h <;> cases h
  · exact fun h => ⟨[], h, rfl⟩

/-- A cast of declared properties makes entries under names that are declared and there. -/
lemma castDeclared_keys {ps : List (String × Node)} {result : Entries}
    (h : (castDeclared child data path active ps).outcome = .ok result) :
    ∀ e ∈ result, ∃ p ∈ ps, e.1 = .str p.1 ∧ (data.get? (.str p.1)).isSome := by
  induction ps generalizing result with
  | nil =>
    obtain rfl := Except.ok.inj h
    simp
  | cons p ps ih =>
    unfold castDeclared at h
    split at h
    next =>
      intro e he
      obtain ⟨p', hp', hkey⟩ := ih h e he
      exact ⟨p', List.mem_cons_of_mem p hp', hkey⟩
    next v hv =>
      obtain ⟨r, -, h⟩ := bind_outcome_ok.1 h
      obtain ⟨others, hothers, h⟩ := bind_outcome_ok.1 h
      obtain rfl := Except.ok.inj h
      intro e he
      rcases List.mem_cons.1 he with rfl | he
      · exact ⟨p, List.mem_cons_self, rfl, by rw [hv]; rfl⟩
      · obtain ⟨p', hp', hkey⟩ := ih hothers e he
        exact ⟨p', List.mem_cons_of_mem p hp', hkey⟩

/-- Nothing becomes of declared properties that are not there. -/
lemma castDeclared_get?_absent {ps : List (String × Node)} {result : Entries} {name : String}
    (h : (castDeclared child data path active ps).outcome = .ok result)
    (habsent : data.get? (.str name) = none) : result.get? (.str name) = none := by
  refine Entries.get?_eq_none fun e he hkey => ?_
  obtain ⟨p, -, hp, hthere⟩ := castDeclared_keys h e he
  obtain rfl : name = p.1 := Value.str.inj (hkey.symm.trans hp)
  rw [habsent] at hthere
  cases hthere

/-- A declared property that is there becomes what its node makes of it.

**Proof sketch.** Induction on the declarations. Of several for one name the first counts, both for
the node and for the entry that is made. -/
lemma castDeclared_get?_found {ps : List (String × Node)} {result : Entries} {name : String}
    {node : Node} {v : Value} (h : (castDeclared child data path active ps).outcome = .ok result)
    (hnode : ps.lookup name = some node) (hv : data.get? (.str name) = some v) :
    ∃ r, (child node v (path ++ [.str name]) active).outcome = .ok r ∧
      result.get? (.str name) = some r := by
  induction ps generalizing result with
  | nil => cases hnode
  | cons p ps ih =>
    obtain ⟨name', node'⟩ := p
    rw [List.lookup_cons] at hnode
    unfold castDeclared at h
    cases hname : name == name' with
    | true =>
      obtain rfl := eq_of_beq hname
      rw [hname] at hnode
      obtain rfl := Option.some.inj hnode
      rw [hv] at h
      obtain ⟨r, hr, h⟩ := bind_outcome_ok.1 h
      obtain ⟨others, -, h⟩ := bind_outcome_ok.1 h
      obtain rfl := Except.ok.inj h
      exact ⟨r, hr, by rw [Entries.get?_cons, if_pos (Value.sameKey_str.2 rfl)]⟩
    | false =>
      have hne : ¬(Value.str name').sameKey (.str name) = true := by
        rw [Value.sameKey_str, Value.str.injEq]
        exact fun heq => ne_of_beq_false hname heq.symm
      rw [hname] at hnode
      split at h
      next => exact ih h hnode
      next =>
        obtain ⟨r, -, h⟩ := bind_outcome_ok.1 h
        obtain ⟨others, hothers, h⟩ := bind_outcome_ok.1 h
        obtain rfl := Except.ok.inj h
        rw [Entries.get?_cons, if_neg hne]
        exact ih hothers hnode

/-- What a cast of declared properties makes of one of them: nothing, if it is not there, and else
what its node makes of it. -/
lemma castDeclared_get? {ps : List (String × Node)} {result : Entries} {name : String}
    {node : Node} (h : (castDeclared child data path active ps).outcome = .ok result)
    (hnode : ps.lookup name = some node) :
    (data.get? (.str name) = none ∧ result.get? (.str name) = none) ∨
      ∃ v r, data.get? (.str name) = some v ∧
        (child node v (path ++ [.str name]) active).outcome = .ok r ∧
        result.get? (.str name) = some r := by
  cases hv : data.get? (.str name) with
  | none => exact .inl ⟨rfl, castDeclared_get?_absent h hv⟩
  | some v =>
    obtain ⟨r, hr, hget⟩ := castDeclared_get?_found h hnode hv
    exact .inr ⟨v, r, rfl, hr, hget⟩

/-- Without a node for them, undeclared properties are kept or left out. -/
lemma castExtra_eq_pure (hnode : s.additional.node? = none) (extra : Entries) :
    castExtra child s extra path active = pure (if keepsExtra s then extra else []) := by
  unfold castExtra keepsExtra
  cases hadditional : s.additional with
  | unspecified => rfl
  | flag allowed => cases allowed <;> rfl
  | schema node =>
    rw [hadditional] at hnode
    cases hnode

/-- Undeclared properties are cast one by one, by what node there is for them. -/
lemma castExtra_eq_ok {extra result : Entries} {c : Node} (hc : s.additional = .schema c) :
    (castExtra child s extra path active).outcome = .ok result ↔
      List.Forall₂ (fun e f => (child c e.2 (path ++ [e.1]) active).outcome = .ok f.2 ∧ e.1 = f.1)
        extra result := by
  have hone : ∀ e f : Value × Value,
      ((child c e.2 (path ++ [e.1]) active >>= fun w => pure (e.1, w)) : Casts _).outcome = .ok f ↔
        (child c e.2 (path ++ [e.1]) active).outcome = .ok f.2 ∧ e.1 = f.1 := by
    rintro e ⟨k, w⟩
    rw [bind_outcome_ok]
    constructor
    · rintro ⟨w', hw, h⟩
      cases h
      exact ⟨hw, rfl⟩
    · rintro ⟨hw, rfl⟩
      exact ⟨w, hw, rfl⟩
  unfold castExtra
  rw [hc]
  dsimp only
  rw [Traced.outcome_mapM, mapM_eq_ok]
  simp only [hone]

/-- **What becomes of undeclared properties**: without a node for them they are kept or left out as
they are, and else the node casts each. -/
lemma castExtra_outcome_ok {extra result : Entries} :
    (castExtra child s extra path active).outcome = .ok result ↔
      (s.additional.node? = none ∧ result = if keepsExtra s then extra else []) ∨
      ∃ c, s.additional = .schema c ∧
        List.Forall₂ (fun e f => (child c e.2 (path ++ [e.1]) active).outcome = .ok f.2 ∧
          e.1 = f.1) extra result := by
  cases hnode : s.additional.node? with
  | none =>
    have hnot : ∀ c, s.additional ≠ .schema c := fun c hc => by
      rw [Additional.node?_eq_some.2 hc] at hnode
      cases hnode
    rw [castExtra_eq_pure hnode, Traced.outcome_pure, Except.ok.injEq, eq_comm]
    simp [hnot]
  | some c =>
    have hc := Additional.node?_eq_some.1 hnode
    rw [castExtra_eq_ok hc]
    simp [hc]

/-- Undeclared properties keep their keys where they are kept, and else are left out. -/
lemma castExtra_keys {extra result : Entries}
    (h : (castExtra child s extra path active).outcome = .ok result) :
    result.map Prod.fst = if keepsExtra s then extra.map Prod.fst else [] := by
  rcases castExtra_outcome_ok.1 h with ⟨-, rfl⟩ | ⟨c, hc, hall⟩
  · split <;> rfl
  · rw [keepsExtra, hc, if_pos rfl]
    exact (map_eq_map_of_forall₂ hall fun _ _ hef => hef.2).symm

/-- By what node there is for them, undeclared properties are cast. -/
lemma castExtra_schema {extra result : Entries} {node : Node} (hnode : s.additional = .schema node)
    (h : (castExtra child s extra path active).outcome = .ok result) :
    ∀ r ∈ result, ∃ v, (r.1, v) ∈ extra ∧
      (child node v (path ++ [r.1]) active).outcome = .ok r.2 := by
  have hall := (castExtra_eq_ok hnode).1 h
  clear h
  induction hall with
  | nil => simp
  | @cons e f _ _ hef _ ih =>
    intro r hr
    rcases List.mem_cons.1 hr with rfl | hr
    · exact ⟨e.2, hef.2 ▸ List.mem_cons_self, hef.2 ▸ hef.1⟩
    · obtain ⟨v, hmem, hv⟩ := ih r hr
      exact ⟨v, List.mem_cons_of_mem _ hmem, hv⟩

/-- Undeclared properties are refused where they are forbidden and there. -/
lemma refuseExtra_outcome_ok {extra : Entries} :
    (refuseExtra s extra path).outcome = .ok () ↔ (s.additional = .flag false → extra = []) := by
  cases extra with
  | nil =>
    unfold refuseExtra
    split <;> simp_all
  | cons e es =>
    unfold refuseExtra
    cases s.additional with
    | flag allowed => cases allowed <;> simp
    | _ => simp

/-- What a cast of an object comes from: an object with the required names and without forbidden
ones, of which the declared and the undeclared properties are cast, and enough of them in number. -/
lemma castObject_outcome_ok {v r : Value} :
    (castObject child s v path active).outcome = .ok r ↔
      ∃ data declared others, v.objectView? s.required = some data ∧
        (∀ n ∈ s.required, n.isKey = true ∧ data.has n = true) ∧
        (s.additional = .flag false → Validation.undeclared s data = []) ∧
        (castDeclared child data path active s.declared).outcome = .ok declared ∧
        (castExtra child s (Validation.undeclared s data) path active).outcome = .ok others ∧
        Validation.below (declared ++ others).length s.minProperties = .ok false ∧
        Validation.above (declared ++ others).length s.maxProperties = .ok false ∧
        r = .mapping (declared ++ others) := by
  unfold castObject
  cases v.objectView? s.required with
  | none => simp [failCast, fail]
  | some data =>
    simp only [bind_outcome_ok]
    constructor
    · rintro ⟨_, hnames, _, hextra, declared, hdeclared, others, hothers, _, hcount, h⟩
      obtain ⟨hfew, hmany⟩ := requireCount_outcome_ok.1 hcount
      exact ⟨data, declared, others, rfl, requireNames_outcome_ok.1 hnames,
        refuseExtra_outcome_ok.1 hextra, hdeclared, hothers, hfew, hmany, (Except.ok.inj h).symm⟩
    · rintro ⟨_, declared, others, hdata, hnames, hextra, hdeclared, hothers, hfew, hmany, rfl⟩
      obtain rfl := Option.some.inj hdata
      exact ⟨(), requireNames_outcome_ok.2 hnames, (), refuseExtra_outcome_ok.2 hextra, declared,
        hdeclared, others, hothers, (), requireCount_outcome_ok.2 ⟨hfew, hmany⟩, rfl⟩

/-! ## Arrays -/

/-- No item is repeated that must not be. -/
lemma requireUnique_outcome_ok {items : List Value} :
    (requireUnique s items path).outcome = .ok () ↔ Validation.checkUnique s items path = [] := by
  unfold requireUnique Validation.checkUnique
  cases s.uniqueItems.isTruthy with
  | false => simp
  | true =>
    cases Validation.firstRepeated [] 0 items with
    | none => simp
    | some index => simp [failCast, fail]

/-- What a cast of an array comes from: an array of which the items are cast, enough of them in
number and not repeated where they must not be. -/
lemma castArray_outcome_ok {v r : Value} :
    (castArray child s v path active).outcome = .ok r ↔
      ∃ items result, v.items? = some items ∧
        (castItems child s items path active).outcome = .ok result ∧
        Validation.below result.length s.minItems = .ok false ∧
        Validation.above result.length s.maxItems = .ok false ∧
        Validation.checkUnique s result path = [] ∧ r = .list result := by
  unfold castArray
  cases v.items? with
  | none => simp [failCast, fail]
  | some items =>
    simp only [bind_outcome_ok]
    constructor
    · rintro ⟨result, hresult, _, hcount, _, hunique, h⟩
      obtain ⟨hfew, hmany⟩ := requireCount_outcome_ok.1 hcount
      exact ⟨items, result, rfl, hresult, hfew, hmany, requireUnique_outcome_ok.1 hunique,
        (Except.ok.inj h).symm⟩
    · rintro ⟨_, result, hitems, hresult, hfew, hmany, hunique, rfl⟩
      obtain rfl := Option.some.inj hitems
      exact ⟨result, hresult, (), requireCount_outcome_ok.2 ⟨hfew, hmany⟩, (),
        requireUnique_outcome_ok.2 hunique, rfl⟩

/-- There are as many items in a result as in what it is made of. -/
lemma castItems_length {items result : List Value}
    (h : (castItems child s items path active).outcome = .ok result) :
    result.length = items.length := by
  unfold castItems at h
  split at h
  · rw [Except.ok.inj h]
  · rw [Traced.outcome_mapM, mapM_eq_ok] at h
    rw [← h.length_eq, List.length_zipIdx]

/-- Item by item, an array is cast by the node for items. -/
lemma castItems_getElem? {items result : List Value} {node : Node} (hnode : s.items = some node)
    (h : (castItems child s items path active).outcome = .ok result) {i : Nat} {r : Value}
    (hr : result[i]? = some r) :
    ∃ v, items[i]? = some v ∧ (child node v (path ++ [.int i]) active).outcome = .ok r := by
  unfold castItems at h
  rw [hnode] at h
  dsimp only at h
  rw [Traced.outcome_mapM, mapM_eq_ok] at h
  obtain ⟨hlength, hall⟩ := List.forall₂_iff_get.1 h
  obtain ⟨hi, rfl⟩ := List.getElem?_eq_some_iff.1 hr
  have hi' : i < items.length := by
    rw [List.length_zipIdx] at hlength
    omega
  refine ⟨items[i], List.getElem?_eq_getElem hi', ?_⟩
  simpa using hall i (by rwa [List.length_zipIdx]) hi

/-- An array of which every item is cast is cast. -/
lemma castItems_of_getElem? {items result : List Value} {node : Node} (hnode : s.items = some node)
    (hlength : items.length = result.length)
    (h : ∀ (i : Nat) v r, items[i]? = some v → result[i]? = some r →
      (child node v (path ++ [.int i]) active).outcome = .ok r) :
    (castItems child s items path active).outcome = .ok result := by
  unfold castItems
  rw [hnode]
  dsimp only
  rw [Traced.outcome_mapM, mapM_eq_ok]
  refine List.forall₂_iff_get.2 ⟨by rw [List.length_zipIdx, hlength], fun i hi hr => ?_⟩
  have hi' : i < items.length := by rwa [List.length_zipIdx] at hi
  simpa using h i _ _ (List.getElem?_eq_getElem hi') (List.getElem?_eq_getElem hr)

end

/-! ## The shape of a schema -/

section

variable {s : Schema} {v : Value}

/-- A schema casts as an object what it asks for as one, and every object whose properties it
declares without asking for a type. -/
lemma castsObject_eq_true : castsObject s v = true ↔
    s.type = some .object ∨ s.type = none ∧ s.properties.isSome = true ∧ v.isObject = true := by
  unfold castsObject
  split
  next htype => simp [htype]
  next htype => simp [htype]
  next t hother htype => simpa [htype] using hother

/-- A schema casts as an array what it asks for as one, and every array for whose items it has a
schema without asking for a type. -/
lemma castsArray_eq_true : castsArray s v = true ↔
    s.type = some .array ∨ s.type = none ∧ s.items.isSome = true ∧ v.isArray = true := by
  unfold castsArray
  split
  next htype => simp [htype]
  next htype => simp [htype]
  next t hother htype => simpa [htype] using hother

/-- A schema that asks for a scalar casts no object and no array. -/
lemma castsParts_of_asksForScalar (h : s.asksForScalar = true) (v : Value) :
    castsObject s v = false ∧ castsArray s v = false := by
  unfold Keywords.asksForScalar at h
  unfold castsObject castsArray
  split at h <;> simp_all

/-- A schema that asks for no scalar and casts a value neither as an object nor as an array asks for
no type that it knows. -/
lemma type_of_castsNeither (hscalar : s.asksForScalar = false) (hobject : castsObject s v = false)
    (harray : castsArray s v = false) :
    s.type = none ∨ ∃ name, s.type = some (.unknown name) := by
  unfold Keywords.asksForScalar at hscalar
  cases htype : s.type with
  | none => exact .inl rfl
  | some t =>
    rw [htype] at hscalar
    cases t with
    | object => rw [castsObject_eq_true.2 (.inl htype)] at hobject; cases hobject
    | array => rw [castsArray_eq_true.2 (.inl htype)] at harray; cases harray
    | unknown name => exact .inr ⟨name, rfl⟩
    | _ => cases hscalar

end

/-- What the shape of a schema makes comes from: a cast of an object, a cast of an array, or else a
conversion whose result meets the keywords for scalars and is one of the values that are allowed. -/
lemma castOwn_outcome_ok {child : NodeCaster} {s : Schema} {v r : Value} {path : Path}
    {active : List String} :
    (castOwn child s v path active).outcome = .ok r ↔
      castsObject s v = true ∧ (castObject child s v path active).outcome = .ok r ∨
        castsObject s v = false ∧ castsArray s v = true ∧
          (castArray child s v path active).outcome = .ok r ∨
        castsObject s v = false ∧ castsArray s v = false ∧
          (castScalar s v path).outcome = .ok r ∧ Validation.checkEnum s r path = [] ∧
          Validation.checkScalar s r path = .ok [] := by
  unfold castOwn
  cases castsObject s v with
  | true => simp
  | false =>
    cases castsArray s v with
    | true => simp
    | false =>
      simp only [Bool.false_eq_true, if_false, false_and, true_and, false_or, bind_outcome_ok]
      constructor
      · rintro ⟨result, hresult, _, hrequire, h⟩
        obtain rfl := Except.ok.inj h
        obtain ⟨scalar, hscalar, hnone⟩ := bind_eq_ok.1 (require_outcome_ok.1 hrequire)
        obtain ⟨henum, rfl⟩ := List.append_eq_nil_iff.1 (Except.ok.inj hnone)
        exact ⟨hresult, henum, hscalar⟩
      · rintro ⟨hresult, henum, hscalar⟩
        refine ⟨r, hresult, (), require_outcome_ok.2 ?_, rfl⟩
        rw [hscalar, henum]
        rfl

/-! ## Alternatives -/

section

variable {child : NodeCaster} {check : NodeChecker} {s : Schema} {v own r source : Value}
  {path : Path} {active : List String}

/-- A result that is attempted is a result. -/
lemma attempt_outcome_ok {x : Casts Value} {r? : Option Value} :
    (attempt x).outcome = .ok r? ↔
      (∃ r, x.outcome = .ok r ∧ r? = some r) ∨
        ∃ is, x.outcome = .error (.issues is) ∧ r? = none := by
  obtain ⟨events, (is | f) | a⟩ := x <;> simp [attempt, eq_comm]

/-- The alternatives that are tried apply to the value itself. -/
lemma mem_sameNodes_of_alternatives {c : Node} (h : c ∈ alternatives s) : c ∈ s.sameNodes := by
  unfold alternatives at h
  split at h
  · exact Keywords.mem_sameNodes_anyOf h
  · exact Keywords.mem_sameNodes_oneOf h

/-- A chosen alternative is what one of the nodes made, and what conforms to that node. -/
lemma firstMatch_outcome_ok {index : Nat} {nodes : List Node} {choice : Nat × Value}
    (h : (firstMatch child check source path active index nodes).outcome = .ok (some choice)) :
    ∃ c ∈ nodes, (child c source path active).outcome = .ok choice.2 ∧
      check c choice.2 path = .ok [] := by
  induction nodes generalizing index with
  | nil => cases h
  | cons c cs ih =>
    have hrest : ∀ i, (firstMatch child check source path active i cs).outcome = .ok (some choice) →
        ∃ c' ∈ c :: cs, (child c' source path active).outcome = .ok choice.2 ∧
          check c' choice.2 path = .ok [] := by
      intro i hi
      obtain ⟨c', hc', hfits⟩ := ih hi
      exact ⟨c', List.mem_cons_of_mem c hc', hfits⟩
    unfold firstMatch at h
    obtain ⟨result?, hattempt, h⟩ := bind_outcome_ok.1 h
    rcases attempt_outcome_ok.1 hattempt with ⟨result, hresult, rfl⟩ | ⟨is, -, rfl⟩
    · obtain ⟨fits, hfits, h⟩ := bind_outcome_ok.1 h
      cases fits with
      | false => exact hrest _ h
      | true =>
        obtain rfl := Option.some.inj (Except.ok.inj h)
        obtain ⟨is, his, hempty⟩ := map_eq_ok.1 (guarded_outcome_ok.1 hfits)
        rw [List.isEmpty_iff] at hempty
        exact ⟨c, List.mem_cons_self, hresult, by rw [his, hempty]⟩
    · exact hrest _ h

/-- With alternatives, a result is combined with what one of them made. -/
lemma castAlternative_outcome_ok (hsome : s.hasAlternatives = true)
    (h : (castAlternative child check s v own path active).outcome = .ok r) :
    ∃ c ∈ alternatives s, ∃ chosen,
      (child c (if v.isObject then .mapping (overlay v own) else own) path active).outcome =
        .ok chosen ∧
      check c chosen path = .ok [] ∧ r = combine s own chosen := by
  unfold castAlternative at h
  rw [if_pos hsome] at h
  obtain ⟨choice?, hchoice, h⟩ := bind_outcome_ok.1 h
  cases choice? with
  | none => cases h
  | some choice =>
    obtain ⟨c, hc, hcast, hfits⟩ := firstMatch_outcome_ok hchoice
    obtain ⟨_, -, h⟩ := bind_outcome_ok.1 h
    exact ⟨c, hc, choice.2, hcast, hfits, (Except.ok.inj h).symm⟩

end

/-! ## Schemas -/

/-- The record type that a cast finds is the one that the schema asks for. -/
lemma targetType_outcome_ok {types : TypeMap} {s : Schema} {path : Path} {t : RecordType}
    (h : (targetType types s path).outcome = .ok (some t)) :
    s.targetType.resolve? types = some t := by
  unfold targetType at h
  cases htarget : s.targetType with
  | absent =>
    rw [htarget] at h
    cases h
  | type t' =>
    rw [htarget] at h
    exact Except.ok.inj h
  | tagged tag =>
    rw [htarget] at h
    dsimp only at h
    split at h
    next => cases h
    next =>
      split at h
      next hget =>
        obtain rfl := Option.some.inj (Except.ok.inj h)
        exact hget
      next => cases h

/-- What a schema makes of a value: the value itself, or a record of the type that it asks for. -/
lemma materialize_cases {types : TypeMap} {s : Schema} {v r : Value} {path : Path}
    (h : (materialize types s v path).outcome = .ok r) :
    r = v ∨ ∃ t es, s.targetType.resolve? types = some t ∧ v = .mapping es ∧
      t.build (t.accepted es) = .ok r := by
  unfold materialize at h
  obtain ⟨target, htarget, h⟩ := bind_outcome_ok.1 h
  split at h
  next t es _ =>
    refine .inr ⟨t, es, targetType_outcome_ok htarget, rfl, ?_⟩
    split at h
    next hbuild => rw [hbuild, Except.ok.inj h]
    next => cases h
  next => exact .inl (Except.ok.inj h).symm

/-- Without a record type, a value stays as it is. -/
lemma materialize_outcome_ok {types : TypeMap} {s : Schema} {v r : Value} {path : Path}
    (hs : s.targetType = .absent) (h : (materialize types s v path).outcome = .ok r) : r = v := by
  rcases materialize_cases h with rfl | ⟨t, es, htarget, -, -⟩
  · rfl
  · rw [hs] at htarget
    cases htarget

section

variable {context : CastContext} {child : NodeCaster} {check : NodeChecker} {s : Schema}
  {v r : Value} {path : Path} {active : List String}

/-- Without members, a value stays as its own shape made it. -/
lemma castAllOf_eq_pure (h : s.allOfList = []) (v own : Value) (path : Path)
    (active : List String) : castAllOf child s v own path active = pure own := by
  rw [castAllOf, h, List.isEmpty_nil, if_pos rfl]

/-- Without alternatives, a value stays as it is. -/
lemma castAlternative_eq_pure (h : s.hasAlternatives = false) (v own : Value) (path : Path)
    (active : List String) : castAlternative child check s v own path active = pure own := by
  rw [castAlternative, h, if_neg Bool.false_ne_true]

/-- Without a record type, a value stays as it is. -/
lemma materialize_eq_pure (h : s.targetType = .absent) (types : TypeMap) (v : Value) (path : Path) :
    materialize types s v path = pure v := by
  rw [materialize, targetType, h]
  rfl

/-- What a cast by a schema comes from: the shape of the schema, its members, its alternatives, what
is asked of the whole, and the record, one after the other. -/
lemma castComposed_outcome_ok :
    (castComposed context child check s v path active).outcome = .ok r ↔
      ∃ own all result, (castOwn child s v path active).outcome = .ok own ∧
        (castAllOf child s v own path active).outcome = .ok all ∧
        (castAlternative child check s v all path active).outcome = .ok result ∧
        (requireWhole check s result path).outcome = .ok () ∧
        (materialize context.types s result path).outcome = .ok r := by
  unfold castComposed
  simp only [bind_outcome_ok]
  constructor
  · rintro ⟨own, hown, all, hall, result, hresult, _, hwhole, hmaterial⟩
    exact ⟨own, all, result, hown, hall, hresult, hwhole, hmaterial⟩
  · rintro ⟨own, all, result, hown, hall, hresult, hwhole, hmaterial⟩
    exact ⟨own, hown, all, hall, result, hresult, (), hwhole, hmaterial⟩

/-- A schema that is not composed casts by its own shape, refuses what must not match, and builds
the record that it asks for. -/
lemma castComposed_uncomposed (hplain : s.isComposed = false) :
    (castComposed context child check s v path active).outcome = .ok r ↔
      ∃ own, (castOwn child s v path active).outcome = .ok own ∧
        (refuseMatch check s own path).outcome = .ok () ∧
        (materialize context.types s own path).outcome = .ok r := by
  have hall : ∀ own, castAllOf child s v own path active = pure own := fun own =>
    castAllOf_eq_pure (Keywords.isComposed_eq_false.1 hplain).1 v own path active
  have halternative : ∀ own, castAlternative child check s v own path active = pure own :=
    fun own => castAlternative_eq_pure (Bool.or_eq_false_iff.1 hplain).2 v own path active
  have hwhole : ∀ own, requireWhole check s own path = refuseMatch check s own path := fun own => by
    rw [requireWhole_eq, hplain, if_neg Bool.false_ne_true, pure_bind]
  simp only [castComposed_outcome_ok, hall, halternative, hwhole, Traced.outcome_pure,
    Except.ok.injEq, exists_and_left, exists_eq_left']

/-- A schema that is not composed and builds no record casts by its own shape, and refuses what
must not match. -/
lemma castComposed_plain (hplain : s.isComposed = false) (htarget : s.targetType = .absent) :
    (castComposed context child check s v path active).outcome = .ok r ↔
      (castOwn child s v path active).outcome = .ok r ∧
        (refuseMatch check s r path).outcome = .ok () := by
  simp only [castComposed_uncomposed hplain, materialize_eq_pure htarget, Traced.outcome_pure,
    Except.ok.injEq]
  constructor
  · rintro ⟨own, hown, hrefuse, rfl⟩
    exact ⟨hown, hrefuse⟩
  · rintro ⟨hown, hrefuse⟩
    exact ⟨r, hown, hrefuse, rfl⟩

end

end Casting

/-! ## Whole values -/

/-- What a cast comes to: a value or issues, unless it stops. -/
def Casting.verdict (x : Casts Value) : Except Fault CastResult :=
  match x.outcome with
  | .ok v => .ok (.ok v)
  | .error (.issues is) => .ok (.failed is)
  | .error (.fault f) => .error f

/-- A whole value is cast to what the cast by its node comes to. -/
lemma cast_outcome_eq (context : CastContext) (node : Node) (v : Value) :
    (cast context node v).outcome =
      Casting.verdict (Casting.castNode context context.limit.toNat node v [] []) := by
  unfold cast Casting.verdict
  rcases Casting.castNode context context.limit.toNat node v [] [] with ⟨es, (is | f) | a⟩ <;> rfl

/-- A whole value is cast when its node casts it. -/
lemma cast_outcome_ok {context : CastContext} {node : Node} {v r : Value} :
    (cast context node v).outcome = .ok (.ok r) ↔
      (Casting.castNode context context.limit.toNat node v [] []).outcome = .ok r := by
  unfold cast
  rcases Casting.castNode context context.limit.toNat node v [] [] with ⟨es, (is | f) | a⟩ <;> simp

/-- A whole value is not cast for the issues that the cast by its node fails with. -/
lemma cast_outcome_failed {context : CastContext} {node : Node} {v : Value} {is : List Issue} :
    (cast context node v).outcome = .ok (.failed is) ↔
      (Casting.castNode context context.limit.toNat node v [] []).outcome =
        .error (.issues is) := by
  unfold cast
  rcases Casting.castNode context context.limit.toNat node v [] [] with ⟨es, (is | f) | a⟩ <;> simp

/-- The cast of a whole value stops as the cast by its node does. -/
lemma cast_outcome_error {context : CastContext} {node : Node} {v : Value} {f : Fault} :
    (cast context node v).outcome = .error f ↔
      (Casting.castNode context context.limit.toNat node v [] []).outcome =
        .error (.fault f) := by
  unfold cast
  rcases Casting.castNode context context.limit.toNat node v [] [] with ⟨es, (is | g) | a⟩ <;> simp

/-- The events of a cast of a whole value are those of the cast by its node. -/
lemma cast_events {context : CastContext} {node : Node} {v : Value} :
    (cast context node v).events =
      (Casting.castNode context context.limit.toNat node v [] []).events := by
  unfold cast
  rcases Casting.castNode context context.limit.toNat node v [] [] with ⟨es, (is | g) | a⟩ <;> rfl

end DataSchema
