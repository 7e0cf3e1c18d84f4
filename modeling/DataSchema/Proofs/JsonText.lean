import Mathlib.Data.List.Forall2
import DataSchema.Report.Json
import DataSchema.Proofs.Numerals
import DataSchema.Proofs.Outcome

set_option autoImplicit false

/-!
# Values as JSON text

A value that can be written is written as a text that stands for it in the grammar of JSON, as long
as the numbers in it are finite; otherwise its text is no JSON at all. The values that cannot be
written are those with a key that is no scalar, or with an instance of an open type, in them.

## Main definitions

* `DataSchema.Value.jsonForm` — what a value is in JSON.
* `DataSchema.Value.numbers` — the numbers in a value.
* `DataSchema.Value.Writable` — the values that can be written.

## Main results

* `DataSchema.Json.spellsString_jsonString` — texts in quotes.
* `DataSchema.Value.writable_iff` — which values are written.
* `DataSchema.Value.spells_jsonAt` — what they are written as.
* `DataSchema.Value.isText_json`, `isFinite_of_isText` — when that is JSON.
-/

namespace DataSchema

/-! ## Texts in quotes -/

/-- A digit in base sixteen is read back. -/
lemma hexDigit?_digitChar {d : Nat} (h : d < 16) : hexDigit? (Nat.digitChar d) = some d := by
  have hall : ∀ d < 16, hexDigit? (Nat.digitChar d) = some d := by decide +kernel
  exact hall d h

/-- One more digit in base sixteen. -/
lemma hexNumber?_append_singleton {cs : List Char} {n : Nat} (h : hexNumber? cs = some n) {d : Nat}
    (hd : d < 16) : hexNumber? (cs ++ [Nat.digitChar d]) = some (n * 16 + d) := by
  unfold hexNumber? at h ⊢
  rw [List.foldl_append, h]
  simp [hexDigit?_digitChar hd]

/-- The digits of a number in base sixteen are read back. -/
lemma hexNumber?_toDigits (n : Nat) : hexNumber? (Nat.toDigits 16 n) = some n := by
  induction n using Nat.strongRecOn with
  | ind n ih =>
    rw [Nat.toDigits_eq_if (by decide)]
    split
    next hn =>
      have hdigit : hexNumber? ([] ++ [Nat.digitChar n]) = _ :=
        hexNumber?_append_singleton rfl hn
      rwa [Nat.zero_mul, Nat.zero_add] at hdigit
    next hn =>
      rw [hexNumber?_append_singleton (ih (n / 16) (by omega)) (Nat.mod_lt n (by decide))]
      congr 1
      omega

/-- Zeros in front of a number make no difference. -/
lemma Json.hexNumber?_replicate_zero (k : Nat) (cs : List Char) :
    hexNumber? (List.replicate k '0' ++ cs) = hexNumber? cs := by
  induction k with
  | zero => rfl
  | succ k ih => exact ih

/-- A number that is filled up with zeros to four digits is read back. -/
lemma Json.spellsUnit_unitEscape {n : Nat} (h : n < 0x10000) : SpellsUnit n (unitEscape n) := by
  have hlength : (Nat.toDigits 16 n).length ≤ 4 :=
    (Nat.length_toDigits_le_iff (by decide) (by decide)).2 h
  refine ⟨paddedHex 4 n, ?_, ?_, rfl⟩
  · rw [paddedHex, List.length_append, List.length_replicate]
    omega
  · rw [paddedHex, hexNumber?_replicate_zero, hexNumber?_toDigits]

/-- A character is written as itself or as an escape. -/
lemma Json.spellsChar_jsonChar (c : Char) : SpellsChar c (jsonChar c) := by
  have hvalid : c.toNat < 0x110000 := by
    rcases c.valid with h | ⟨-, h⟩
    · exact Nat.lt_trans h (by decide)
    · exact h
  unfold jsonChar
  dsimp only
  simp only [Bool.or_eq_true, Bool.and_eq_true, decide_eq_true_eq]
  split_ifs with hself hnewline hreturn htab hback hfeed hplain hunit
  · rcases hself with rfl | rfl <;> exact .short (by decide)
  · exact .short (hnewline ▸ by decide)
  · exact .short (hreturn ▸ by decide)
  · exact .short (htab ▸ by decide)
  · exact .short (hback ▸ by decide)
  · exact .short (hfeed ▸ by decide)
  · rw [not_or] at hself
    exact .plain hplain.1 hself.1 hself.2
  · exact .unit (spellsUnit_unitEscape hunit)
  · have hhigh : (c.toNat - 0x10000) / 0x400 < 0x400 := by omega
    have hlow : (c.toNat - 0x10000) % 0x400 < 0x400 := by omega
    exact .pair hhigh hlow (by omega) (spellsUnit_unitEscape (by omega))
      (spellsUnit_unitEscape (by omega))

/-- Characters are written one by one. -/
lemma Json.spellsChars_flatMap (cs : List Char) : SpellsChars cs (cs.flatMap jsonChar) := by
  induction cs with
  | nil => exact .nil
  | cons c cs ih =>
    rw [List.flatMap_cons]
    exact .cons (spellsChar_jsonChar c) ih

/-- **A text is written as a text in quotes.** -/
theorem Json.spellsString_jsonString (s : String) : SpellsString s (jsonString s).toList := by
  refine ⟨s.toList.flatMap jsonChar, spellsChars_flatMap _, ?_⟩
  rw [jsonString, String.toList_ofList, List.cons_append]

/-! ## Collections -/

namespace Json

variable {N : List Char → Prop}

/-- The beginning of a line is blank. -/
lemma isBlank_jsonLineStart (depth : Nat) : IsBlank (jsonLineStart depth).toList := by
  intro c hc
  rw [jsonLineStart, String.toList_append] at hc
  rcases List.mem_append.1 hc with hc | hc
  · rw [List.mem_singleton.1 (show c ∈ ['\n'] from hc)]
    decide
  · rw [String.toList_ofList] at hc
    rw [List.eq_of_mem_replicate hc]
    decide

/-- No characters are blank. -/
lemma isBlank_nil : IsBlank [] := fun _ hc => absurd hc List.not_mem_nil

/-- A space is blank. -/
lemma isBlank_space : IsBlank [' '] := fun _ hc =>
  List.mem_cons.2 (.inl (List.mem_singleton.1 hc))

/-- A written member. -/
def SpellsMember (N : List Char → Prop) (member : String × Json) (text : String) : Prop :=
  ∃ cs, Spells N member.2 cs ∧ text.toList = (jsonString member.1).toList ++ ':' :: ' ' :: cs

/-- Written items with commas between them. -/
lemma spellsItems_intercalate {start ending : List Char} (hstart : IsBlank start)
    (hending : IsBlank ending) {j : Json} {js : List Json} {t : String} {ts : List String}
    (h : Spells N j t.toList) (hs : List.Forall₂ (fun j t => Spells N j t.toList) js ts) :
    SpellsItems N (j :: js)
      (start ++ ((',' :: start).intercalate ((t :: ts).map String.toList) ++ ending)) := by
  induction hs generalizing j t with
  | nil => exact .one (.blanks hstart (by simpa [List.intercalate] using h) hending)
  | @cons j' t' js ts h' hs ih =>
    have hitems := SpellsItems.more (.blanks hstart h isBlank_nil) (ih h')
    simpa [List.intercalate_cons_cons] using hitems

/-- Written members with commas between them. -/
lemma spellsMembers_intercalate {start ending : List Char} (hstart : IsBlank start)
    (hending : IsBlank ending) {m : String × Json} {ms : List (String × Json)} {t : String}
    {ts : List String} (h : SpellsMember N m t) (hs : List.Forall₂ (SpellsMember N) ms ts) :
    SpellsMembers N (m :: ms)
      (start ++ ((',' :: start).intercalate ((t :: ts).map String.toList) ++ ending)) := by
  obtain ⟨cs, hcs, htext⟩ := h
  have hname : SpellsName m.1 (start ++ (jsonString m.1).toList ++ []) :=
    ⟨start, _, [], hstart, spellsString_jsonString m.1, isBlank_nil, rfl⟩
  induction hs generalizing m t cs with
  | nil =>
    have hmember := SpellsMembers.one hname (.blanks isBlank_space hcs hending)
    simpa [List.intercalate, htext] using hmember
  | @cons m' t' ms ts h' hs ih =>
    obtain ⟨cs', hcs', htext'⟩ := h'
    have hmembers := SpellsMembers.more hname (.blanks isBlank_space hcs isBlank_nil)
      (ih cs' hcs' htext'
        ⟨start, _, [], hstart, spellsString_jsonString m'.1, isBlank_nil, rfl⟩)
    simpa [List.intercalate_cons_cons, htext] using hmembers

/-- A collection without items, as characters. -/
lemma toList_jsonCollection_nil (left right : String) (depth : Nat) :
    (jsonCollection left right depth []).toList = left.toList ++ right.toList :=
  String.toList_append

/-- A collection with items in it, as characters. -/
lemma toList_jsonCollection {left right : String} {depth : Nat} {items : List String}
    (h : items ≠ []) : (jsonCollection left right depth items).toList =
      left.toList ++ ((jsonLineStart (depth + 1)).toList ++
        ((',' :: (jsonLineStart (depth + 1)).toList).intercalate (items.map String.toList) ++
          (jsonLineStart depth).toList) ++ right.toList) := by
  unfold jsonCollection
  rw [if_neg (by simpa using h)]
  simp [String.toList_intercalate]

/-- Written items make up an array. -/
lemma spells_array (depth : Nat) {js : List Json} {ts : List String}
    (h : List.Forall₂ (fun j t => Spells N j t.toList) js ts) :
    Spells N (.array js) (jsonCollection "[" "]" depth ts).toList := by
  cases h with
  | nil =>
    rw [toList_jsonCollection_nil]
    exact .emptyArray isBlank_nil
  | cons h hs =>
    rw [toList_jsonCollection (List.cons_ne_nil _ _)]
    exact .array (spellsItems_intercalate (isBlank_jsonLineStart _) (isBlank_jsonLineStart _) h hs)

/-- Written members make up an object. -/
lemma spells_object (depth : Nat) {ms : List (String × Json)} {ts : List String}
    (h : List.Forall₂ (SpellsMember N) ms ts) :
    Spells N (.object ms) (jsonCollection "\x7b" "\x7d" depth ts).toList := by
  cases h with
  | nil =>
    rw [toList_jsonCollection_nil]
    exact .emptyObject isBlank_nil
  | cons h hs =>
    rw [toList_jsonCollection (List.cons_ne_nil _ _)]
    exact .object (spellsMembers_intercalate (isBlank_jsonLineStart _) (isBlank_jsonLineStart _) h hs)

end Json

/-! ## Values -/

namespace Value

/-- The text that a key becomes; none of it for keys that become no text. -/
def keyText (k : Value) : String := k.jsonKey.toOption.getD ""

@[simp] lemma keyText_str (s : String) : (str s).keyText = s := rfl

mutual

/-- What a value is in JSON. -/
def jsonForm : Value → Json
  | null => .null
  | bool b => .bool b
  | int n => .number (toString n).toList
  | float x => .number (jsonNotation.write x).toList
  | str s => .string s
  | date d => .string d.text
  | dateTime t => .string (Timestamp.render t)
  | list items | tuple items => .array (jsonForms items)
  | mapping entries => .object (entryForms entries)
  | record _ fields => .object (fieldForms fields)
  | openRecord .. => .null

/-- What items are in JSON. -/
def jsonForms : List Value → List Json
  | [] => []
  | v :: vs => jsonForm v :: jsonForms vs

/-- What entries are in JSON. -/
def entryForms : List (Value × Value) → List (String × Json)
  | [] => []
  | (k, v) :: es => (k.keyText, jsonForm v) :: entryForms es

/-- What fields are in JSON. -/
def fieldForms : List (String × Value) → List (String × Json)
  | [] => []
  | (name, v) :: fs => (name, jsonForm v) :: fieldForms fs

end

mutual

/-- The numbers in a value, except for keys. -/
def numbers : Value → List Number
  | int n => [.int n]
  | float x => [.float x]
  | list items | tuple items => itemNumbers items
  | mapping entries => entryNumbers entries
  | record _ fields => fieldNumbers fields
  | _ => []

/-- The numbers in items. -/
def itemNumbers : List Value → List Number
  | [] => []
  | v :: vs => numbers v ++ itemNumbers vs

/-- The numbers in entries. -/
def entryNumbers : List (Value × Value) → List Number
  | [] => []
  | (_, v) :: es => numbers v ++ entryNumbers es

/-- The numbers in fields. -/
def fieldNumbers : List (String × Value) → List Number
  | [] => []
  | (_, v) :: fs => numbers v ++ fieldNumbers fs

end

/-- The JSON forms of items are those of each. -/
lemma jsonForms_eq_map (vs : List Value) : jsonForms vs = vs.map jsonForm := by
  induction vs with
  | nil => rfl
  | cons v vs ih => rw [jsonForms, ih, List.map_cons]

/-- The numbers in items are those in each. -/
lemma itemNumbers_eq_flatMap (vs : List Value) : itemNumbers vs = vs.flatMap numbers := by
  induction vs with
  | nil => rfl
  | cons v vs ih => rw [itemNumbers, ih, List.flatMap_cons]

/-- The text of a number. -/
def numeral : Number → List Char
  | .int n => (toString n).toList
  | .float x => (jsonNotation.write x).toList

mutual

/-- The numbers of the JSON form are those of the value. -/
lemma numerals_jsonForm (v : Value) : v.jsonForm.numerals = v.numbers.map numeral := by
  cases v with
  | list items | tuple items =>
    rw [jsonForm, Json.numerals, numbers, numerals_jsonForms items]
  | mapping entries => rw [jsonForm, Json.numerals, numbers, numerals_entryForms entries]
  | record type fields => rw [jsonForm, Json.numerals, numbers, numerals_fieldForms fields]
  | _ => simp [jsonForm, Json.numerals, numbers, numeral]

/-- The numbers of the JSON forms of items. -/
lemma numerals_jsonForms (vs : List Value) :
    Json.itemNumerals (jsonForms vs) = (itemNumbers vs).map numeral := by
  cases vs with
  | nil => rfl
  | cons v vs =>
    rw [jsonForms, Json.itemNumerals, itemNumbers, List.map_append, numerals_jsonForm v,
      numerals_jsonForms vs]

/-- The numbers of the JSON forms of entries. -/
lemma numerals_entryForms (es : List (Value × Value)) :
    Json.memberNumerals (entryForms es) = (entryNumbers es).map numeral := by
  match es with
  | [] => rfl
  | (k, v) :: es =>
    rw [entryForms, Json.memberNumerals, entryNumbers, List.map_append, numerals_jsonForm v,
      numerals_entryForms es]

/-- The numbers of the JSON forms of fields. -/
lemma numerals_fieldForms (fs : List (String × Value)) :
    Json.memberNumerals (fieldForms fs) = (fieldNumbers fs).map numeral := by
  match fs with
  | [] => rfl
  | (name, v) :: fs =>
    rw [fieldForms, Json.memberNumerals, fieldNumbers, List.map_append, numerals_jsonForm v,
      numerals_fieldForms fs]

end

/-- The keys that become texts: the scalars of JSON. -/
def isJsonKey : Value → Bool
  | null | bool _ | int _ | float _ | str _ => true
  | _ => false

/-- A key becomes a text when it is a scalar of JSON. -/
lemma jsonKey_eq_ok {k : Value} : (∃ text, k.jsonKey = .ok text) ↔ k.isJsonKey = true := by
  cases k <;> simp [jsonKey, isJsonKey]

/-- The values that can be written: keys are scalars of JSON, and no instance of an open type is
among them. -/
inductive Writable : Value → Prop
  | null : Writable .null
  | bool (b : Bool) : Writable (.bool b)
  | int (n : Int) : Writable (.int n)
  | float (x : Binary64) : Writable (.float x)
  | str (s : String) : Writable (.str s)
  | date (d : Date) : Writable (.date d)
  | dateTime (t : DateTime) : Writable (.dateTime t)
  | list {items : List Value} : (∀ v ∈ items, Writable v) → Writable (.list items)
  | tuple {items : List Value} : (∀ v ∈ items, Writable v) → Writable (.tuple items)
  | mapping {entries : List (Value × Value)} : (∀ e ∈ entries, e.1.isJsonKey = true) →
    (∀ e ∈ entries, Writable e.2) → Writable (.mapping entries)
  | record {type : String} {fields : List (String × Value)} :
    (∀ f ∈ fields, Writable f.2) → Writable (.record type fields)

@[simp] lemma writable_list {items : List Value} :
    (Value.list items).Writable ↔ ∀ v ∈ items, v.Writable := ⟨fun | .list h => h, .list⟩

@[simp] lemma writable_tuple {items : List Value} :
    (Value.tuple items).Writable ↔ ∀ v ∈ items, v.Writable := ⟨fun | .tuple h => h, .tuple⟩

@[simp] lemma writable_mapping {entries : List (Value × Value)} : (Value.mapping entries).Writable ↔
    (∀ e ∈ entries, e.1.isJsonKey = true) ∧ ∀ e ∈ entries, e.2.Writable :=
  ⟨fun | .mapping hkeys h => ⟨hkeys, h⟩, fun h => .mapping h.1 h.2⟩

@[simp] lemma writable_record {type : String} {fields : List (String × Value)} :
    (Value.record type fields).Writable ↔ ∀ f ∈ fields, f.2.Writable :=
  ⟨fun | .record h => h, .record⟩

mutual

/-- **Which values are written**, inside however many collections. -/
theorem writable_iff (v : Value) (depth : Nat) :
    (∃ text, v.jsonAt depth = .ok text) ↔ v.Writable := by
  cases v with
  | null => exact ⟨fun _ => .null, fun _ => ⟨_, rfl⟩⟩
  | bool b => exact ⟨fun _ => .bool b, fun _ => ⟨_, rfl⟩⟩
  | int n => exact ⟨fun _ => .int n, fun _ => ⟨_, rfl⟩⟩
  | float x => exact ⟨fun _ => .float x, fun _ => ⟨_, rfl⟩⟩
  | str s => exact ⟨fun _ => .str s, fun _ => ⟨_, rfl⟩⟩
  | date d => exact ⟨fun _ => .date d, fun _ => ⟨_, rfl⟩⟩
  | dateTime t => exact ⟨fun _ => .dateTime t, fun _ => ⟨_, rfl⟩⟩
  | list items =>
    rw [jsonAt, exists_map_eq_ok, items_writable_iff items, writable_list]
  | tuple items =>
    rw [jsonAt, exists_map_eq_ok, items_writable_iff items, writable_tuple]
  | mapping entries =>
    rw [jsonAt, exists_map_eq_ok, entries_writable_iff entries, writable_mapping]
  | record type fields =>
    rw [jsonAt, exists_map_eq_ok, fields_writable_iff fields, writable_record]
  | openRecord type fields =>
    refine ⟨fun h => ?_, nofun⟩
    obtain ⟨text, h⟩ := h
    cases h

/-- Items are written when each of them is. -/
lemma items_writable_iff (vs : List Value) (depth : Nat) :
    (∃ texts, jsonItems depth vs = .ok texts) ↔ ∀ v ∈ vs, v.Writable := by
  cases vs with
  | nil => simp [jsonItems]
  | cons v vs =>
    rw [List.forall_mem_cons, ← writable_iff v depth, ← items_writable_iff vs depth]
    simp only [jsonItems, bind_eq_ok, pure_eq_ok, Except.ok.injEq]
    tauto

/-- Entries are written when the keys become texts and the values are written. -/
lemma entries_writable_iff (es : List (Value × Value)) (depth : Nat) :
    (∃ texts, jsonEntries depth es = .ok texts) ↔
      (∀ e ∈ es, e.1.isJsonKey = true) ∧ ∀ e ∈ es, e.2.Writable := by
  match es with
  | [] => simp [jsonEntries]
  | (k, v) :: es =>
    have hrest := entries_writable_iff es depth
    rw [List.forall_mem_cons, List.forall_mem_cons, ← writable_iff v depth, ← jsonKey_eq_ok]
    simp only [jsonEntries, bind_eq_ok, pure_eq_ok, Except.ok.injEq]
    tauto

/-- Fields are written when their values are. -/
lemma fields_writable_iff (fs : List (String × Value)) (depth : Nat) :
    (∃ texts, jsonFields depth fs = .ok texts) ↔ ∀ f ∈ fs, f.2.Writable := by
  match fs with
  | [] => simp [jsonFields]
  | (name, v) :: fs =>
    rw [List.forall_mem_cons, ← writable_iff v depth, ← fields_writable_iff fs depth]
    simp only [jsonFields, bind_eq_ok, pure_eq_ok, Except.ok.injEq]
    tauto

end

variable {N : List Char → Prop}

mutual

/-- **What a value is written as**, inside however many collections: a text for its JSON form, if
the texts of its numbers count as numbers. -/
theorem spells_jsonAt (v : Value) {depth : Nat} {text : String} (h : v.jsonAt depth = .ok text)
    (hN : ∀ x ∈ v.numbers, N (numeral x)) : Json.Spells N v.jsonForm text.toList := by
  cases v with
  | null =>
    obtain rfl := Except.ok.inj h
    exact .null
  | bool b =>
    obtain rfl := Except.ok.inj h
    cases b
    · exact .false
    · exact .true
  | int n =>
    obtain rfl := Except.ok.inj h
    exact .number (hN _ (List.mem_singleton_self _))
  | float x =>
    obtain rfl := Except.ok.inj h
    exact .number (hN _ (List.mem_singleton_self _))
  | str s =>
    obtain rfl := Except.ok.inj h
    exact .string (Json.spellsString_jsonString s)
  | date d =>
    obtain rfl := Except.ok.inj h
    exact .string (Json.spellsString_jsonString _)
  | dateTime t =>
    obtain rfl := Except.ok.inj h
    exact .string (Json.spellsString_jsonString _)
  | list items =>
    obtain ⟨texts, htexts, rfl⟩ := map_eq_ok.1 h
    exact Json.spells_array depth (spells_jsonItems items htexts hN)
  | tuple items =>
    obtain ⟨texts, htexts, rfl⟩ := map_eq_ok.1 h
    exact Json.spells_array depth (spells_jsonItems items htexts hN)
  | mapping entries =>
    obtain ⟨texts, htexts, rfl⟩ := map_eq_ok.1 h
    exact Json.spells_object depth (spells_jsonEntries entries htexts hN)
  | record type fields =>
    obtain ⟨texts, htexts, rfl⟩ := map_eq_ok.1 h
    exact Json.spells_object depth (spells_jsonFields fields htexts hN)
  | openRecord type fields => cases h

/-- What items are written as. -/
lemma spells_jsonItems (vs : List Value) {depth : Nat} {texts : List String}
    (h : jsonItems depth vs = .ok texts) (hN : ∀ x ∈ itemNumbers vs, N (numeral x)) :
    List.Forall₂ (fun j t => Json.Spells N j t.toList) (jsonForms vs) texts := by
  match vs with
  | [] =>
    cases h
    exact .nil
  | v :: vs =>
    simp only [jsonItems, bind_eq_ok, pure_eq_ok, Except.ok.injEq] at h
    obtain ⟨text, htext, texts, htexts, rfl⟩ := h
    rw [itemNumbers, List.forall_mem_append] at hN
    exact .cons (spells_jsonAt v htext hN.1) (spells_jsonItems vs htexts hN.2)

/-- What entries are written as. -/
lemma spells_jsonEntries (es : List (Value × Value)) {depth : Nat} {texts : List String}
    (h : jsonEntries depth es = .ok texts) (hN : ∀ x ∈ entryNumbers es, N (numeral x)) :
    List.Forall₂ (Json.SpellsMember N) (entryForms es) texts := by
  match es with
  | [] =>
    cases h
    exact .nil
  | (k, v) :: es =>
    simp only [jsonEntries, bind_eq_ok, pure_eq_ok, Except.ok.injEq] at h
    obtain ⟨key, hkey, text, htext, texts, htexts, rfl⟩ := h
    rw [entryNumbers, List.forall_mem_append] at hN
    refine .cons ⟨_, spells_jsonAt v htext hN.1, ?_⟩ (spells_jsonEntries es htexts hN.2)
    rw [keyText, hkey]
    simp [Except.toOption]

/-- What fields are written as. -/
lemma spells_jsonFields (fs : List (String × Value)) {depth : Nat} {texts : List String}
    (h : jsonFields depth fs = .ok texts) (hN : ∀ x ∈ fieldNumbers fs, N (numeral x)) :
    List.Forall₂ (Json.SpellsMember N) (fieldForms fs) texts := by
  match fs with
  | [] =>
    cases h
    exact .nil
  | (name, v) :: fs =>
    simp only [jsonFields, bind_eq_ok, pure_eq_ok, Except.ok.injEq] at h
    obtain ⟨text, htext, texts, htexts, rfl⟩ := h
    rw [fieldNumbers, List.forall_mem_append] at hN
    refine .cons ⟨_, spells_jsonAt v htext hN.1, ?_⟩ (spells_jsonFields fs htexts hN.2)
    simp

end

/-- A number that is not not-a-number or an infinity. -/
def isFinite : Number → Bool
  | .int _ => true
  | .float x => x.isFinite

variable {v : Value} {text : String} {before after : List Char}

/-- **A value with finite numbers is written as JSON** that stands for its JSON form. -/
theorem isText_json (h : v.json = .ok text) (hfinite : ∀ x ∈ v.numbers, isFinite x = true)
    (hbefore : Json.IsBlank before) (hafter : Json.IsBlank after) :
    Json.SpellsPadded Json.IsNumeral v.jsonForm (before ++ (text.toList ++ after)) := by
  refine .blanks hbefore (spells_jsonAt v h fun x hx => ?_) hafter
  cases x with
  | int n => exact Json.isNumeral_toString n
  | float x => exact Notation.isNumeral_write _ (hfinite _ hx)

/-- **A value is written as JSON only if its numbers are finite**, whatever the text is to stand
for. -/
theorem isFinite_of_isText (h : v.json = .ok text) (hbefore : Json.IsBlank before)
    (hafter : Json.IsBlank after) {j : Json}
    (hj : Json.SpellsPadded Json.IsNumeral j (before ++ (text.toList ++ after))) :
    ∀ x ∈ v.numbers, isFinite x = true := by
  have hquotes : ∀ x ∈ v.numbers, '"' ∉ numeral x := by
    intro x _
    cases x with
    | int n => exact Json.quote_notMem (Json.isNumeral_toString n)
    | float x => exact Notation.quote_notMem_write x
  have hspells : Json.SpellsPadded (fun cs => '"' ∉ cs) v.jsonForm
      (before ++ (text.toList ++ after)) := .blanks hbefore (spells_jsonAt v h hquotes) hafter
  intro x hx
  cases x with
  | int n => rfl
  | float x =>
    by_contra hinfinite
    obtain ⟨c, hc, hletter⟩ := Notation.exists_letter_write (eq_false_of_ne_true hinfinite)
    have hnumeral : numeral (.float x) ∈ v.jsonForm.numerals := by
      rw [numerals_jsonForm]
      exact List.mem_map_of_mem hx
    have hmem := Json.mem_of_spells (fun _ h => h) hspells hj hnumeral hc
    rcases hletter with rfl | rfl <;> exact absurd hmem (by decide)

end Value

end DataSchema
