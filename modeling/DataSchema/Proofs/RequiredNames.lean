import DataSchema.Proofs.Enclosure
import DataSchema.Proofs.Soundness

set_option autoImplicit false

/-!
# Required names of a cast object

Required names are looked for in the object that is cast, and undeclared properties are left out
afterwards unless something is said about them. So a required name that the schema does not declare
is a key of the result only if the schema says something about undeclared properties; and where it
is not, the result does not conform to the schema that it was cast by.

## Main results

* `DataSchema.Soundness.has_castObject_iff` — the required names that are keys of a cast object.
* `DataSchema.Validation.mem_of_checkNode_required` — a required name that is not there is an issue.
* `DataSchema.required_of_cast` — required names and casts of whole values.
-/

namespace DataSchema

namespace Soundness

open Validation Casting

variable {child : NodeCaster} {s : Schema} {v r : Value} {path : Path} {active : List String}
  {data declared others : Entries} {n : Value}

/-- A key of a result is declared, or undeclared properties are kept. -/
lemma declares_or_keepsExtra
    (hdeclared : (castDeclared child data path active s.declared).outcome = .ok declared)
    (hothers : (castExtra child s (undeclared s data) path active).outcome = .ok others)
    (h : Entries.has (declared ++ others) n = true) :
    s.declares n = true ∨ keepsExtra s = true := by
  rcases Entries.has_append.1 h with h | h
  · left
    obtain ⟨e, he, hkey⟩ := Entries.has_iff.1 h
    obtain ⟨p, hp, heq, -⟩ := castDeclared_keys hdeclared e he
    rw [heq, Value.str_sameKey] at hkey
    exact Keywords.declares_iff.2 ⟨p, hp, hkey⟩
  · right
    by_contra hkeeps
    have hkeys := castExtra_keys hothers
    rw [if_neg hkeeps, List.map_eq_nil_iff] at hkeys
    rw [hkeys] at h
    cases h

/-- Where properties are declared, an undeclared property that is not refused is kept if the schema
says something about such properties. -/
lemma keepsExtra_iff (hproperties : s.properties.isSome = true)
    (hallowed : s.additional = .flag false → undeclared s data = [])
    (hn : s.declares n = false) (hdata : data.has n = true) :
    keepsExtra s = true ↔ s.additional ≠ .unspecified := by
  unfold keepsExtra
  cases hadditional : s.additional with
  | unspecified => simp [Option.isSome_iff_ne_none.1 hproperties]
  | schema node => simp
  | flag allowed =>
    cases allowed with
    | true => simp
    | false =>
      obtain ⟨e, he, -⟩ := exists_mem_undeclared hn hdata
      rw [hallowed hadditional] at he
      cases he

/-- **The required names that are keys of a cast object**: those that are declared, and the others
if the schema says something about undeclared properties. -/
theorem has_castObject_iff (hproperties : s.properties.isSome = true)
    (h : (castObject child s v path active).outcome = .ok r) :
    ∃ es : Entries, r = .mapping es ∧ ∀ n ∈ s.required,
      (es.has n = true ↔ s.declares n = true ∨ s.additional ≠ .unspecified) := by
  obtain ⟨data, declared, others, -, hthere, hallowed, hdeclared, hothers, -, -, rfl⟩ :=
    castObject_outcome_ok.1 h
  refine ⟨declared ++ others, rfl, fun n hn => ?_⟩
  have hdata := (hthere n hn).2
  have hhas : Entries.has (declared ++ others) n = true ↔
      s.declares n = true ∨ keepsExtra s = true :=
    ⟨declares_or_keepsExtra hdeclared hothers,
      fun hkept => has_of_required hkept hdata hdeclared hothers⟩
  rw [hhas]
  cases hdeclares : s.declares n with
  | true => simp
  | false => simp [keepsExtra_iff hproperties hallowed hdeclares hdata]

end Soundness

namespace Validation

variable {registry : Registry} {limit : Int} {s : Schema} {path : Path} {is : List Issue}

/-- A required name that an object does not have is an issue of the object. -/
lemma mem_of_checkNode_required {node : Node} (hnode : registry.Resolves node s) {depth : Nat}
    {es : Entries} (h : checkNode registry limit depth node (.mapping es) path = .ok is) {n : Value}
    (hn : n ∈ s.required) (habsent : es.has n = false) :
    ⟨.missingRequiredProperty, "Missing required property '" ++ n.text ++ "'", path⟩ ∈ is := by
  obtain ⟨left, -, h⟩ := checkNode_resolves hnode h
  unfold checkSchema at h
  rw [show (Value.mapping es).isNull = false from rfl, Bool.false_and, Bool.false_and,
    if_neg Bool.false_ne_true, if_neg Bool.false_ne_true] at h
  obtain ⟨scalar, -, h⟩ := bind_eq_ok.1 h
  obtain ⟨object, hobject, h⟩ := bind_eq_ok.1 h
  obtain ⟨array, -, h⟩ := bind_eq_ok.1 h
  obtain ⟨composition, -, h⟩ := bind_eq_ok.1 h
  obtain ⟨declared, -, hobject⟩ := bind_eq_ok.1 hobject
  obtain ⟨required, hrequired, hobject⟩ := bind_eq_ok.1 hobject
  obtain ⟨additional, -, hobject⟩ := bind_eq_ok.1 hobject
  obtain ⟨count, -, hobject⟩ := bind_eq_ok.1 hobject
  have hissue : ⟨.missingRequiredProperty, "Missing required property '" ++ n.text ++ "'", path⟩ ∈
      required := by
    obtain ⟨part, hpart, hsub⟩ := subset_gather hrequired hn
    unfold checkRequiredName at hpart
    split at hpart
    next => cases hpart
    next =>
      rw [habsent] at hpart
      obtain rfl := Except.ok.inj hpart
      exact hsub List.mem_cons_self
  obtain rfl := Except.ok.inj h
  obtain rfl := Except.ok.inj hobject
  simp [hissue]

end Validation

/-- **Required names and casts.** The cast of an object by a schema that declares properties, is not
composed, selects no other and builds no record, has the required names that are declared, and the
others exactly if the schema says something about undeclared properties. A required name that it
does not have is an issue of the result by the same schema. -/
theorem required_of_cast {context : CastContext} {node : Node} {s : Schema}
    (hnode : context.registry.Resolves node s) (htype : s.type = some .object) (hs : s.IsPlain)
    (hproperties : s.properties.isSome = true) {v r : Value} (hv : v.isNull = false)
    (h : (cast context node v).outcome = .ok (.ok r)) :
    ∃ es : Entries, r = .mapping es ∧ ∀ n ∈ s.required,
      (es.has n = true ↔ s.declares n = true ∨ s.additional ≠ .unspecified) ∧
      (es.has n = false → ∀ is, validate context.registry node r context.limit = .ok is →
        ⟨.missingRequiredProperty, "Missing required property '" ++ n.text ++ "'", []⟩ ∈ is) := by
  obtain ⟨left, opened, -, hcast⟩ := Casting.castNode_resolves hnode (cast_outcome_ok.1 h)
  have hobject : Casting.castsObject s v = true := by rw [Casting.castsObject, htype]
  have hown := Casting.castSchema_plain hs hv hcast
  rw [Casting.castOwn, if_pos hobject] at hown
  obtain ⟨es, rfl, hall⟩ := Soundness.has_castObject_iff hproperties hown
  exact ⟨es, rfl, fun n hn => ⟨hall n hn, fun habsent is his =>
    Validation.mem_of_checkNode_required hnode his hn habsent⟩⟩

/-- A badge with a name. A number is required as well but not declared. -/
def badge (additional : Additional Node) : Schema where
  type := some .object
  properties := some [("name", .schema { type := some .string })]
  required := [.str "name", .str "id"]
  additional

/-- Badges, by two names, of which all that is not declared is a whole number. -/
def badges : Registry :=
  ⟨[("Badge", .schema (badge (.schema (.schema { type := some .integer })))),
    ("Card", .ref "Badge")]⟩

/-- A badge whose undeclared properties are cast keeps its number. -/
theorem badge_keeps_number :
    ∃ s, badges.Resolves (.ref "Card") s ∧ s.type = some .object ∧ s.IsPlain ∧
      s.properties.isSome = true ∧ s.declares (.str "id") = false ∧
      (cast ⟨badges, .generic, 64⟩ (.ref "Card")
        (.mapping [(.str "id", .str "7"), (.str "name", .str "Ada")])).outcome =
          .ok (.ok (.mapping [(.str "name", .str "Ada"), (.str "id", .int 7)])) ∧
      ∀ n ∈ s.required,
        Entries.has [(.str "name", .str "Ada"), (.str "id", .int 7)] n = true := by
  have hbadge : badges.Resolves (.ref "Badge")
      (badge (.schema (.schema { type := some .integer }))) := .ref rfl (.schema _)
  have hnode : badges.Resolves (.ref "Card")
      (badge (.schema (.schema { type := some .integer }))) := .ref rfl hbadge
  have hplain : (badge (.schema (.schema { type := some .integer }))).IsPlain := ⟨rfl, rfl, rfl⟩
  have hcast : (cast ⟨badges, .generic, 64⟩ (.ref "Card")
      (.mapping [(.str "id", .str "7"), (.str "name", .str "Ada")])).outcome =
        .ok (.ok (.mapping [(.str "name", .str "Ada"), (.str "id", .int 7)])) := by
    rfl
  obtain ⟨es, hes, hall⟩ := required_of_cast hnode rfl hplain rfl rfl hcast
  obtain rfl := Value.mapping.inj hes
  refine ⟨_, hnode, rfl, hplain, rfl, by decide +kernel, hcast, fun n hn => ?_⟩
  exact (hall n hn).1.2 (.inr nofun)

/-- A badge about whose undeclared properties nothing is said loses its number, and does not conform
any more. -/
theorem number_lost :
    (badge .unspecified).type = some .object ∧ (badge .unspecified).IsPlain ∧
      (badge .unspecified).properties.isSome = true ∧
      .str "id" ∈ (badge .unspecified).required ∧
      (cast ⟨⟨[]⟩, .generic, 64⟩ (.schema (badge .unspecified))
        (.mapping [(.str "id", .int 7), (.str "name", .str "Ada")])).outcome =
          .ok (.ok (.mapping [(.str "name", .str "Ada")])) ∧
      Entries.has [(.str "name", .str "Ada")] (.str "id") = false ∧
      (validate ⟨[]⟩ (.schema (badge .unspecified)) (.mapping [(.str "name", .str "Ada")]) 64).map
        (List.map Issue.kind) = .ok [.missingRequiredProperty] :=
  ⟨rfl, ⟨rfl, rfl, rfl⟩, rfl, .tail _ (.head _), rfl, by decide +kernel, rfl⟩

end DataSchema
