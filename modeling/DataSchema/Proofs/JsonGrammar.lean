import Mathlib.Data.List.Basic
import DataSchema.Document.Scalar.Quoted

set_option autoImplicit false

/-!
# The grammar of JSON

What JSON text is, independently of any writer: a relation between values and the texts that stand
for them. What counts as a number is a parameter, since writers exist that go beyond the numerals of
JSON; a text outside quotes shows whether one has done so.

## Main definitions

* `DataSchema.Json` — the values of JSON, with numbers as they are written.
* `DataSchema.Json.IsNumeral` — the numerals of JSON.
* `DataSchema.Json.Spells`, `SpellsPadded` — texts for a value, without and with blanks around it.
* `DataSchema.Json.IsText` — JSON text.
* `DataSchema.Json.bare` — what a text has outside quotes.

## Main results

* `DataSchema.Json.Spells.leaves` — outside quotes a text has its numbers and a few other characters.
* `DataSchema.Json.mem_of_spells` — a text of JSON shows what numbers it has.
-/

namespace DataSchema

/-- A value of JSON. Numbers are kept as they are written, and objects in order. -/
inductive Json
  /-- The absent value. -/
  | null
  /-- A truth value. -/
  | bool (b : Bool)
  /-- A number. -/
  | number (numeral : List Char)
  /-- A text. -/
  | string (s : String)
  /-- An array. -/
  | array (items : List Json)
  /-- An object. -/
  | object (members : List (String × Json))

namespace Json

/-! ## Numerals -/

/-- One or more digits. -/
def IsDigits (cs : List Char) : Prop := cs ≠ [] ∧ ∀ c ∈ cs, c.isDigit = true

/-- Digits of a whole number: no zero stands before another digit. -/
def IsWhole (cs : List Char) : Prop := IsDigits cs ∧ (cs.head? = some '0' → cs = ['0'])

/-- Nothing, or a point and digits. -/
def IsFraction (cs : List Char) : Prop := cs = [] ∨ ∃ ds, IsDigits ds ∧ cs = '.' :: ds

/-- Nothing, or a letter, possibly a sign, and digits. -/
def IsExponent (cs : List Char) : Prop :=
  cs = [] ∨ ∃ letter ∈ ['e', 'E'], ∃ sign ∈ [[], ['+'], ['-']], ∃ ds, IsDigits ds ∧
    cs = letter :: sign ++ ds

/-- The numerals of JSON: possibly a minus sign, a whole number, a fraction, and an exponent. -/
def IsNumeral (cs : List Char) : Prop :=
  ∃ sign ∈ [[], ['-']], ∃ whole fraction exponent, IsWhole whole ∧ IsFraction fraction ∧
    IsExponent exponent ∧ cs = sign ++ whole ++ fraction ++ exponent

/-! ## Texts in quotes -/

/-- The letters that are escapes on their own, with the characters that they stand for. -/
def shortEscapes : List (Char × Nat) := [
  ('"', 34), ('\\', 92), ('/', 47), ('b', 8), ('f', 12), ('n', 10), ('r', 13), ('t', 9)]

/-- A UTF-16 unit as an escape with four digits. -/
def SpellsUnit (unit : Nat) (cs : List Char) : Prop :=
  ∃ hex, hex.length = 4 ∧ hexNumber? hex = some unit ∧ cs = '\\' :: 'u' :: hex

/-- A character inside quotes. -/
inductive SpellsChar : Char → List Char → Prop
  /-- The character itself. -/
  | plain {c : Char} : 32 ≤ c.toNat → c ≠ '"' → c ≠ '\\' → SpellsChar c [c]
  /-- A letter that is an escape. -/
  | short {c letter : Char} : (letter, c.toNat) ∈ shortEscapes → SpellsChar c ['\\', letter]
  /-- A UTF-16 unit. -/
  | unit {c : Char} {cs : List Char} : SpellsUnit c.toNat cs → SpellsChar c cs
  /-- Two UTF-16 units, the first for the upper half of what is beyond the sixteen bits. -/
  | pair {c : Char} {high low : Nat} {cs ds : List Char} : high < 0x400 → low < 0x400 →
    c.toNat = 0x10000 + 0x400 * high + low → SpellsUnit (0xd800 + high) cs →
    SpellsUnit (0xdc00 + low) ds → SpellsChar c (cs ++ ds)

/-- Characters inside quotes. -/
inductive SpellsChars : List Char → List Char → Prop
  /-- No characters. -/
  | nil : SpellsChars [] []
  /-- One more. -/
  | cons {c : Char} {s cs ds : List Char} :
    SpellsChar c cs → SpellsChars s ds → SpellsChars (c :: s) (cs ++ ds)

/-- A text in quotes. -/
def SpellsString (s : String) (cs : List Char) : Prop :=
  ∃ inner, SpellsChars s.toList inner ∧ cs = '"' :: (inner ++ ['"'])

/-! ## Values -/

/-- Characters that may stand between the parts of a text. -/
def IsBlank (cs : List Char) : Prop := ∀ c ∈ cs, c ∈ [' ', '\t', '\n', '\r']

/-- The name of a member with blanks around it. -/
def SpellsName (name : String) (cs : List Char) : Prop :=
  ∃ before inner after, IsBlank before ∧ SpellsString name inner ∧ IsBlank after ∧
    cs = before ++ inner ++ after

mutual

/-- A text stands for a value, the numbers being texts of a kind. -/
inductive Spells (N : List Char → Prop) : Json → List Char → Prop
  | null : Spells N .null ['n', 'u', 'l', 'l']
  | true : Spells N (.bool true) ['t', 'r', 'u', 'e']
  | false : Spells N (.bool false) ['f', 'a', 'l', 's', 'e']
  | number {numeral : List Char} : N numeral → Spells N (.number numeral) numeral
  | string {s : String} {cs : List Char} : SpellsString s cs → Spells N (.string s) cs
  | emptyArray {blank : List Char} : IsBlank blank → Spells N (.array []) ('[' :: (blank ++ [']']))
  | array {items : List Json} {cs : List Char} :
    SpellsItems N items cs → Spells N (.array items) ('[' :: (cs ++ [']']))
  | emptyObject {blank : List Char} :
    IsBlank blank → Spells N (.object []) ('\x7b' :: (blank ++ ['\x7d']))
  | object {members : List (String × Json)} {cs : List Char} :
    SpellsMembers N members cs → Spells N (.object members) ('\x7b' :: (cs ++ ['\x7d']))

/-- A text with blanks around it stands for a value. -/
inductive SpellsPadded (N : List Char → Prop) : Json → List Char → Prop
  | blanks {j : Json} {before cs after : List Char} :
    IsBlank before → Spells N j cs → IsBlank after → SpellsPadded N j (before ++ (cs ++ after))

/-- A text stands for one or more items, with commas between them. -/
inductive SpellsItems (N : List Char → Prop) : List Json → List Char → Prop
  | one {j : Json} {cs : List Char} : SpellsPadded N j cs → SpellsItems N [j] cs
  | more {j : Json} {js : List Json} {cs ds : List Char} :
    SpellsPadded N j cs → SpellsItems N js ds → SpellsItems N (j :: js) (cs ++ ',' :: ds)

/-- A text stands for one or more members, with commas between them. -/
inductive SpellsMembers (N : List Char → Prop) : List (String × Json) → List Char → Prop
  | one {name : String} {j : Json} {key cs : List Char} :
    SpellsName name key → SpellsPadded N j cs → SpellsMembers N [(name, j)] (key ++ ':' :: cs)
  | more {name : String} {j : Json} {members : List (String × Json)} {key cs ds : List Char} :
    SpellsName name key → SpellsPadded N j cs → SpellsMembers N members ds →
    SpellsMembers N ((name, j) :: members) (key ++ ':' :: (cs ++ ',' :: ds))

end

/-- JSON text that stands for a value. -/
def IsText (j : Json) (text : String) : Prop := SpellsPadded IsNumeral j text.toList

mutual

/-- The numbers in a value. -/
def numerals : Json → List (List Char)
  | number numeral => [numeral]
  | array items => itemNumerals items
  | object members => memberNumerals members
  | _ => []

/-- The numbers in items. -/
def itemNumerals : List Json → List (List Char)
  | [] => []
  | j :: js => numerals j ++ itemNumerals js

/-- The numbers in members. -/
def memberNumerals : List (String × Json) → List (List Char)
  | [] => []
  | (_, j) :: members => numerals j ++ memberNumerals members

end

/-! ## Outside quotes -/

/-- Where a character of a text stands. -/
inductive Place
  /-- Outside quotes. -/
  | outside
  /-- Inside quotes. -/
  | inside
  /-- Inside quotes, after a backslash. -/
  | escaped

/-- What a text has outside quotes, when it begins at a place. -/
def bareFrom : Place → List Char → List Char
  | _, [] => []
  | .outside, c :: cs => if c = '"' then bareFrom .inside cs else c :: bareFrom .outside cs
  | .inside, c :: cs =>
    if c = '"' then bareFrom .outside cs
    else if c = '\\' then bareFrom .escaped cs
    else bareFrom .inside cs
  | .escaped, _ :: cs => bareFrom .inside cs

/-- What a text has outside quotes. -/
def bare (cs : List Char) : List Char := bareFrom .outside cs

/-- The characters that stand outside quotes besides numbers. -/
def structural : List Char := " \t\n\r[]\x7b\x7d,:nulltruefalse".toList

/-- Texts without quotes stand outside of them. -/
lemma bare_append {cs : List Char} (h : '"' ∉ cs) (rest : List Char) :
    bare (cs ++ rest) = cs ++ bare rest := by
  induction cs with
  | nil => rfl
  | cons c cs ih =>
    rw [List.mem_cons, not_or] at h
    rw [List.cons_append, bare, bareFrom, if_neg (Ne.symm h.1)]
    exact congrArg (c :: ·) (ih h.2)

/-- A number is read off characters only if all of them are digits. -/
lemma isSome_hexDigit? {n? : Option Nat} {cs : List Char}
    (h : (cs.foldl (fun n c => do return (← n) * 16 + (← hexDigit? c)) n?).isSome) :
    n?.isSome ∧ ∀ c ∈ cs, (hexDigit? c).isSome := by
  induction cs generalizing n? with
  | nil => exact ⟨h, fun c hc => absurd hc List.not_mem_nil⟩
  | cons c cs ih =>
    obtain ⟨hhead, htail⟩ := ih h
    cases n? <;> cases hdigit : hexDigit? c <;> simp_all

/-- Digits of escapes are neither quotes nor backslashes. -/
lemma ne_of_hexNumber? {cs : List Char} {n : Nat} (h : hexNumber? cs = some n) :
    '"' ∉ cs ∧ '\\' ∉ cs := by
  have hquote : hexDigit? '"' = none := by decide +kernel
  have hbackslash : hexDigit? '\\' = none := by decide +kernel
  have hdigits := (isSome_hexDigit? (Option.isSome_of_mem h)).2
  refine ⟨fun hmem => ?_, fun hmem => ?_⟩
  · have := hdigits _ hmem
    rw [hquote] at this
    exact Bool.false_ne_true this
  · have := hdigits _ hmem
    rw [hbackslash] at this
    exact Bool.false_ne_true this

/-- Inside quotes, nothing is seen of characters that are neither quotes nor backslashes. -/
lemma bareFrom_inside_append {cs : List Char} (hquote : '"' ∉ cs) (hbackslash : '\\' ∉ cs)
    (rest : List Char) : bareFrom .inside (cs ++ rest) = bareFrom .inside rest := by
  induction cs with
  | nil => rfl
  | cons c cs ih =>
    rw [List.mem_cons, not_or] at hquote hbackslash
    rw [List.cons_append, bareFrom, if_neg (Ne.symm hquote.1), if_neg (Ne.symm hbackslash.1)]
    exact ih hquote.2 hbackslash.2

/-- Inside quotes, nothing is seen of an escape. -/
lemma bareFrom_inside_unit {unit : Nat} {cs : List Char} (h : SpellsUnit unit cs)
    (rest : List Char) : bareFrom .inside (cs ++ rest) = bareFrom .inside rest := by
  obtain ⟨hex, -, hnumber, rfl⟩ := h
  obtain ⟨hquote, hbackslash⟩ := ne_of_hexNumber? hnumber
  exact bareFrom_inside_append hquote hbackslash rest

/-- Inside quotes, nothing is seen of a character. -/
lemma bareFrom_inside_char {c : Char} {cs : List Char} (h : SpellsChar c cs) (rest : List Char) :
    bareFrom .inside (cs ++ rest) = bareFrom .inside rest := by
  cases h with
  | plain _ hquote hbackslash =>
    exact bareFrom_inside_append (by simpa using Ne.symm hquote)
      (by simpa using Ne.symm hbackslash) rest
  | short => rfl
  | unit h => exact bareFrom_inside_unit h rest
  | pair _ _ _ h h' =>
    rw [List.append_assoc, bareFrom_inside_unit h, bareFrom_inside_unit h']

/-- Inside quotes, nothing is seen of the characters of a text. -/
lemma bareFrom_inside_chars {s inner : List Char} (h : SpellsChars s inner) (rest : List Char) :
    bareFrom .inside (inner ++ rest) = bareFrom .inside rest := by
  induction h with
  | nil => rfl
  | cons hc _ ih => rw [List.append_assoc, bareFrom_inside_char hc, ih]

/-- Nothing is seen of a text in quotes. -/
lemma bare_string {s : String} {cs : List Char} (h : SpellsString s cs) (rest : List Char) :
    bare (cs ++ rest) = bare rest := by
  obtain ⟨inner, h, rfl⟩ := h
  rw [List.cons_append, List.append_assoc]
  exact bareFrom_inside_chars h _

/-! ## Numbers in a text -/

variable {N : List Char → Prop}

/-- Outside quotes, a text has the numbers that it is said to have, and besides these only a few
other characters. -/
def Leaves (N : List Char → Prop) (numerals : List (List Char)) (cs : List Char) : Prop :=
  ∃ own, (∀ rest, bare (cs ++ rest) = own ++ bare rest) ∧
    (∀ c ∈ own, c ∈ structural ∨ ∃ numeral, N numeral ∧ c ∈ numeral) ∧
    ∀ numeral ∈ numerals, numeral ⊆ own

namespace Leaves

variable {numerals numerals' : List (List Char)} {cs ds : List Char}

/-- Texts in a row. -/
lemma append (h : Leaves N numerals cs) (h' : Leaves N numerals' ds) :
    Leaves N (numerals ++ numerals') (cs ++ ds) := by
  obtain ⟨own, hbare, hown, hnumerals⟩ := h
  obtain ⟨own', hbare', hown', hnumerals'⟩ := h'
  refine ⟨own ++ own', fun rest => ?_, fun c hc => ?_, fun numeral hn => ?_⟩
  · rw [List.append_assoc, hbare, hbare', List.append_assoc]
  · exact (List.mem_append.1 hc).elim (hown c) (hown' c)
  · rcases List.mem_append.1 hn with hn | hn
    · exact List.subset_append_of_subset_left _ (hnumerals numeral hn)
    · exact List.subset_append_of_subset_right _ (hnumerals' numeral hn)

/-- Characters that stand outside quotes. -/
lemma ofStructural (h : ∀ c ∈ cs, c ∈ structural) : Leaves N [] cs := by
  have hquote : '"' ∉ cs := fun hc => absurd (h _ hc) (by decide)
  exact ⟨cs, bare_append hquote, fun c hc => .inl (h c hc), by simp⟩

/-- A word. -/
lemma ofWord (h : cs.all structural.contains = true) : Leaves N [] cs :=
  ofStructural fun c hc => List.contains_iff_mem.1 (List.all_eq_true.1 h c hc)

/-- Blanks. -/
lemma ofBlank (h : IsBlank cs) : Leaves N [] cs := by
  refine ofStructural fun c hc => ?_
  have hblank := h c hc
  simp only [List.mem_cons, List.not_mem_nil, or_false] at hblank
  rcases hblank with rfl | rfl | rfl | rfl <;> decide

/-- A number. -/
lemma ofNumber {numeral : List Char} (hN : N numeral) (hquote : '"' ∉ numeral) :
    Leaves N [numeral] numeral := by
  refine ⟨numeral, bare_append hquote, fun c hc => .inr ⟨numeral, hN, hc⟩, fun n hn => ?_⟩
  rw [List.mem_singleton.1 hn]
  exact List.Subset.refl _

/-- A text in quotes. -/
lemma ofString {s : String} (h : SpellsString s cs) : Leaves N [] cs :=
  ⟨[], bare_string h, by simp, by simp⟩

/-- The name of a member. -/
lemma ofName {name : String} (h : SpellsName name cs) : Leaves N [] cs := by
  obtain ⟨before, inner, after, hbefore, hinner, hafter, rfl⟩ := h
  exact ((ofBlank hbefore).append (ofString hinner)).append (ofBlank hafter)

/-- A character that stands outside quotes, and a text. -/
lemma cons {c : Char} (hc : c ∈ structural) (h : Leaves N numerals cs) :
    Leaves N numerals (c :: cs) :=
  (ofStructural (by simpa using hc) : Leaves N [] [c]).append h

/-- A text, and a character that stands outside quotes. -/
lemma concat {c : Char} (hc : c ∈ structural) (h : Leaves N numerals cs) :
    Leaves N numerals (cs ++ [c]) := by
  have hrow := h.append (ofStructural (by simpa using hc) : Leaves N [] [c])
  rwa [List.append_nil] at hrow

end Leaves

mutual

/-- A text for a value has the numbers of the value. -/
lemma Spells.leaves (hN : ∀ numeral, N numeral → '"' ∉ numeral) {j : Json} {cs : List Char} :
    Spells N j cs → Leaves N j.numerals cs
  | .null | .true | .false => .ofWord (by decide)
  | .number h => .ofNumber h (hN _ h)
  | .string h => .ofString h
  | .emptyArray h | .emptyObject h => .cons (by decide) (.concat (by decide) (.ofBlank h))
  | .array h => .cons (by decide) (.concat (by decide) (h.leaves hN))
  | .object h => .cons (by decide) (.concat (by decide) (h.leaves hN))

/-- So has one with blanks around it. -/
lemma SpellsPadded.leaves (hN : ∀ numeral, N numeral → '"' ∉ numeral) {j : Json} {cs : List Char} :
    SpellsPadded N j cs → Leaves N j.numerals cs
  | .blanks hbefore h hafter => by
    have hrow := (h.leaves hN).append (.ofBlank hafter)
    rw [List.append_nil] at hrow
    exact (Leaves.ofBlank hbefore).append hrow

/-- A text for items has the numbers of the items. -/
lemma SpellsItems.leaves (hN : ∀ numeral, N numeral → '"' ∉ numeral) {js : List Json}
    {cs : List Char} : SpellsItems N js cs → Leaves N (itemNumerals js) cs
  | .one h => by
    rw [itemNumerals, itemNumerals, List.append_nil]
    exact h.leaves hN
  | .more h hs => (h.leaves hN).append (.cons (by decide) (hs.leaves hN))

/-- A text for members has the numbers of the members. -/
lemma SpellsMembers.leaves (hN : ∀ numeral, N numeral → '"' ∉ numeral)
    {members : List (String × Json)} {cs : List Char} :
    SpellsMembers N members cs → Leaves N (memberNumerals members) cs
  | .one hname h => by
    rw [memberNumerals, memberNumerals, List.append_nil]
    exact (Leaves.ofName hname).append ((h.leaves hN).cons (by decide))
  | .more hname h hs => by
    rw [memberNumerals]
    have hrest := (h.leaves hN).append ((hs.leaves hN).cons (c := ',') (by decide))
    exact (Leaves.ofName hname).append (hrest.cons (by decide))

end

/-- Numerals have digits, signs, points and letters of exponents. -/
lemma mem_numeral {numeral : List Char} (h : IsNumeral numeral) {c : Char} (hc : c ∈ numeral) :
    c.isDigit = true ∨ c ∈ ['-', '+', '.', 'e', 'E'] := by
  obtain ⟨sign, hsign, whole, fraction, exponent, ⟨⟨-, hwhole⟩, -⟩, hfraction, hexponent, rfl⟩ := h
  simp only [List.mem_append] at hc
  rcases hc with ((hc | hc) | hc) | hc
  · simp only [List.mem_cons, List.not_mem_nil, or_false] at hsign
    rcases hsign with rfl | rfl <;> simp_all
  · exact .inl (hwhole c hc)
  · rcases hfraction with rfl | ⟨ds, ⟨-, hds⟩, rfl⟩
    · exact absurd hc List.not_mem_nil
    · rcases List.mem_cons.1 hc with rfl | hc
      · exact .inr (by decide)
      · exact .inl (hds c hc)
  · rcases hexponent with rfl | ⟨letter, hletter, sign, hsign, ds, ⟨-, hds⟩, rfl⟩
    · exact absurd hc List.not_mem_nil
    · rcases List.mem_cons.1 hc with rfl | hc
      · exact .inr (by simp only [List.mem_cons, List.not_mem_nil, or_false] at hletter ⊢; tauto)
      · rcases List.mem_append.1 hc with hc | hc
        · simp only [List.mem_cons, List.not_mem_nil, or_false] at hsign
          rcases hsign with rfl | rfl | rfl <;> simp_all
        · exact .inl (hds c hc)

/-- Numerals have no quotes. -/
lemma quote_notMem {numeral : List Char} (h : IsNumeral numeral) : '"' ∉ numeral := fun hc =>
  absurd (mem_numeral h hc) (by decide)

/-- **A text of JSON shows what numbers it has**: whatever else it is read as, its numbers then have
no other characters than numerals and what stands outside quotes besides. -/
theorem mem_of_spells (hN : ∀ numeral, N numeral → '"' ∉ numeral) {j j' : Json} {cs : List Char}
    (h : SpellsPadded N j cs) (h' : SpellsPadded IsNumeral j' cs) {numeral : List Char}
    (hnumeral : numeral ∈ j.numerals) {c : Char} (hc : c ∈ numeral) :
    c ∈ structural ∨ c.isDigit = true ∨ c ∈ ['-', '+', '.', 'e', 'E'] := by
  obtain ⟨own, hbare, -, hnumerals⟩ := h.leaves hN
  obtain ⟨own', hbare', hown', -⟩ := h'.leaves fun _ => quote_notMem
  have heq : own = own' := by
    have := (hbare []).symm.trans (hbare' [])
    rwa [bare, bareFrom, List.append_nil, List.append_nil] at this
  rcases hown' c (heq ▸ hnumerals numeral hnumeral hc) with hc | ⟨numeral', hnumeral', hc⟩
  · exact .inl hc
  · exact .inr (mem_numeral hnumeral' hc)

end Json

end DataSchema
