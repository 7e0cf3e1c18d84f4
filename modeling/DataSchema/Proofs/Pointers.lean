import Mathlib
import DataSchema.Proofs.JsonData

set_option autoImplicit false

/-!
# What pointers identify

A pointer can be taken apart again: its tokens are what stands between its slashes, for an escaped
token has none, and the text of a token comes back when the escapes are undone. A position and a
name may have the same text; but the tokens that lead from one value to its parts are all positions
or all names, so that no two locations of a value have the same pointer.

## Main definitions

* `DataSchema.Pointer.replaceAll` — a text with all occurrences of another replaced.
* `DataSchema.Value.IsTextKeyed` — values whose mappings have distinct texts as keys.

## Main results

* `DataSchema.Pointer.escapeChars_eq_replaceAll`, `DataSchema.Pointer.unescapeChars_eq_replaceAll` —
  escapes are put in and undone by two replacements, in opposite orders.
* `DataSchema.Path.pointer_eq_iff` — pointers are equal if the texts of all tokens are.
* `DataSchema.Value.LeadsTo.eq_of_texts` — the texts of tokens determine a location of a value.
* `DataSchema.pointers_identify` — texts, tokens, locations and issues are known by their pointers.
-/

namespace DataSchema

namespace Pointer

/-! ## Escapes -/

/-- A text with all occurrences of another replaced, from left to right. -/
def replaceAll (old new : List Char) : List Char → List Char
  | [] => []
  | c :: cs =>
    if old.isPrefixOf (c :: cs) then new ++ replaceAll old new (cs.drop (old.length - 1))
    else c :: replaceAll old new cs
termination_by cs => cs.length
decreasing_by
  · rw [List.length_drop, List.length_cons]
    omega
  · exact Nat.lt_succ_self _

/-- One character is replaced wherever it stands. -/
lemma replaceAll_singleton (c : Char) (new : List Char) (cs : List Char) :
    replaceAll [c] new cs = cs.flatMap fun d => if c = d then new else [d] := by
  induction cs with
  | nil => rw [replaceAll, List.flatMap_nil]
  | cons d cs ih =>
    rw [replaceAll, List.flatMap_cons]
    by_cases h : c = d
    · subst h
      simp [List.isPrefixOf, ih]
    · simp [List.isPrefixOf, h, ih]

/-- Of two characters in a row, a text that begins with them is rid first. -/
lemma replaceAll_pair_cons (c d : Char) (new cs : List Char) :
    replaceAll [c, d] new (c :: d :: cs) = new ++ replaceAll [c, d] new cs := by
  rw [replaceAll]
  simp [List.isPrefixOf]

/-- A text that does not begin with two characters keeps its head when they are replaced. -/
lemma replaceAll_pair_of_ne {c d e : Char} {new cs : List Char}
    (h : ¬(e = c ∧ cs.head? = some d)) :
    replaceAll [c, d] new (e :: cs) = e :: replaceAll [c, d] new cs := by
  have hstart : List.isPrefixOf [c, d] (e :: cs) = false := by
    cases cs <;> grind [List.isPrefixOf]
  rw [replaceAll, hstart]
  rfl

/-- **Escapes are put in by two replacements**: of the tilde first, so that the tildes which the
other one brings in stay as they are. -/
theorem escapeChars_eq_replaceAll (cs : List Char) :
    escapeChars cs = replaceAll ['/'] ['~', '1'] (replaceAll ['~'] ['~', '0'] cs) := by
  simp only [replaceAll_singleton]
  fun_induction escapeChars cs with
  | case1 => rfl
  | case2 cs ih => simp [ih]
  | case3 cs ih => simp [ih]
  | case4 c cs htilde hslash ih => simp_all [eq_comm]

/-- **Escapes are undone by two replacements**, in the opposite order. -/
theorem unescapeChars_eq_replaceAll (cs : List Char) :
    unescapeChars cs = replaceAll ['~', '0'] ['~'] (replaceAll ['~', '1'] ['/'] cs) := by
  -- the first replacement leaves a digit in front only where one stood
  have hhead : ∀ cs, (replaceAll ['~', '1'] ['/'] cs).head? = some '0' → cs.head? = some '0' := by
    intro cs
    cases cs with
    | nil => rw [replaceAll]; exact id
    | cons c cs =>
      rw [replaceAll]
      split <;> simp
  fun_induction unescapeChars cs with
  | case1 => simp [replaceAll]
  | case2 cs ih =>
    rw [replaceAll_pair_cons, List.singleton_append, replaceAll_pair_of_ne (by simp), ih]
  | case3 cs ih =>
    have hdigit : replaceAll ['~', '1'] ['/'] ('0' :: cs) =
        '0' :: replaceAll ['~', '1'] ['/'] cs := replaceAll_pair_of_ne (by simp)
    rw [replaceAll_pair_of_ne (e := '~') (by simp), hdigit, replaceAll_pair_cons, ih,
      List.singleton_append]
  | case4 c cs hone hzero ih =>
    have hsecond : ¬(c = '~' ∧ (replaceAll ['~', '1'] ['/'] cs).head? = some '0') := by
      rintro ⟨hc, h⟩
      obtain ⟨cs', hcs⟩ := List.head?_eq_some_iff.1 (hhead cs h)
      exact hzero cs' hc hcs
    have hfirst : ¬(c = '~' ∧ cs.head? = some '1') := by
      rintro ⟨hc, h⟩
      obtain ⟨cs', hcs⟩ := List.head?_eq_some_iff.1 h
      exact hone cs' hc hcs
    rw [replaceAll_pair_of_ne hfirst, replaceAll_pair_of_ne hsecond, ih]

/-- An escaped token has no slash. -/
lemma slash_notMem_escapeChars (cs : List Char) : '/' ∉ escapeChars cs := by
  fun_induction escapeChars cs with
  | case1 => exact List.not_mem_nil
  | case2 cs ih => simp [ih]
  | case3 cs ih => simp [ih]
  | case4 c cs _ hslash ih =>
    rw [List.mem_cons, not_or]
    exact ⟨fun h => hslash h.symm, ih⟩

/-- Unescaping undoes escaping. -/
lemma unescape_escape (s : String) : unescape (escape s) = s := by
  rw [unescape, escape, String.toList_ofList, unescapeChars_escapeChars, String.ofList_toList]

end Pointer

/-! ## Pointers -/

namespace Path

/-- Texts with a slash in front of each stand with a slash between any two, whatever stands before
the first. -/
lemma flatMap_eq_intercalate (p : Path) (head : List Char) :
    head ++ (p.map fun t => "/" ++ Pointer.escape t.text).flatMap String.toList =
      ['/'].intercalate (head :: p.map fun t => Pointer.escapeChars t.text.toList) := by
  induction p generalizing head with
  | nil => simp
  | cons t p ih =>
    rw [List.map_cons, List.map_cons, List.flatMap_cons, List.intercalate_cons_cons, ← ih,
      String.toList_append, Pointer.escape, String.toList_ofList]
    simp

/-- The characters of a pointer: the sign that begins it and the escaped tokens, with a slash
between any two. -/
lemma toList_pointer (p : Path) : p.pointer.toList =
    ['/'].intercalate (['#'] :: p.map fun t => Pointer.escapeChars t.text.toList) := by
  rw [pointer, String.toList_append, String.toList_join, ← flatMap_eq_intercalate]
  rfl

/-- The texts of the tokens are read off a pointer: neither the sign in front nor an escaped token
has a slash, so that they are what stands after each slash, with the escapes undone. -/
lemma texts_eq_of_pointer (p : Path) :
    p.map Value.text = (p.pointer.toList.splitOn '/').tail.map fun cs =>
      String.ofList (Pointer.unescapeChars cs) := by
  have hparts : p.pointer.toList.splitOn '/' =
      ['#'] :: p.map fun t => Pointer.escapeChars t.text.toList := by
    rw [toList_pointer]
    refine List.splitOn_intercalate _ ?_ (List.cons_ne_nil _ _)
    simp [Pointer.slash_notMem_escapeChars]
  rw [hparts]
  simp [Pointer.unescapeChars_escapeChars]

/-- **Pointers are equal** if the texts of all tokens are. -/
theorem pointer_eq_iff {p q : Path} :
    p.pointer = q.pointer ↔ p.map Value.text = q.map Value.text := by
  constructor
  · intro h
    rw [texts_eq_of_pointer p, texts_eq_of_pointer q, h]
  · intro h
    have hjoin : ∀ r : Path, r.pointer =
        "#" ++ String.join ((r.map Value.text).map fun text => "/" ++ Pointer.escape text) := by
      intro r
      rw [pointer, List.map_map]
      rfl
    rw [hjoin p, hjoin q, h]

end Path

/-! ## Locations of values -/

namespace Value

/-- A value is built from scalars, arrays of either kind, and mappings from distinct texts. -/
inductive IsTextKeyed : Value → Prop
  /-- Scalars. -/
  | scalar {v : Value} : v.isScalar = true → IsTextKeyed v
  /-- Arrays. -/
  | array {v : Value} {items : List Value} : v.items? = some items →
    (∀ w ∈ items, IsTextKeyed w) → IsTextKeyed v
  /-- Mappings. -/
  | mapping {es : Entries} : es.Named → (∀ e ∈ es, IsTextKeyed e.2) → IsTextKeyed (.mapping es)

variable {v u w token token' : Value}

/-- The parts of such a value are such values. -/
lemma IsTextKeyed.of_hasPartAt (hv : v.IsTextKeyed) (h : v.HasPartAt token w) : w.IsTextKeyed := by
  cases hv with
  | scalar hscalar =>
    cases h with
    | item hitems _ => rw [items?_of_isScalar hscalar] at hitems; cases hitems
    | entry _ | field _ => cases hscalar
  | array hitems hall =>
    obtain ⟨i, -, hget⟩ := h.of_items hitems
    exact hall w (List.mem_of_getElem? hget)
  | mapping _ hall =>
    cases h with
    | item hitems _ => cases hitems
    | entry he => exact hall _ he

/-- The text of a token determines the token and the part that it leads to. -/
lemma HasPartAt.eq_of_text (hv : v.IsTextKeyed) (hu : v.HasPartAt token u)
    (hw : v.HasPartAt token' w) (h : token.text = token'.text) : token = token' ∧ u = w := by
  cases hv with
  | scalar hscalar =>
    cases hu with
    | item hitems _ => rw [items?_of_isScalar hscalar] at hitems; cases hitems
    | entry _ | field _ => cases hscalar
  | array hitems _ =>
    obtain ⟨i, rfl, hgetu⟩ := hu.of_items hitems
    obtain ⟨j, rfl, hgetw⟩ := hw.of_items hitems
    obtain rfl : i = j := Int.ofNat.inj (Int.repr_inj.1 h)
    exact ⟨rfl, Option.some.inj (hgetu.symm.trans hgetw)⟩
  | mapping hes _ =>
    obtain ⟨name, rfl, hgetu⟩ := hu.of_named hes
    obtain ⟨name', rfl, hgetw⟩ := hw.of_named hes
    obtain rfl : name = name' := h
    exact ⟨rfl, Option.some.inj (hgetu.symm.trans hgetw)⟩

/-- **The texts of tokens determine a location**, and what stands there. -/
theorem LeadsTo.eq_of_texts {p q : Path} (hv : v.IsTextKeyed) (hu : v.LeadsTo p u)
    (hw : v.LeadsTo q w) (h : p.map text = q.map text) : p = q ∧ u = w := by
  induction hu generalizing q with
  | here v =>
    obtain rfl : q = [] := List.map_eq_nil_iff.1 h.symm
    cases hw
    exact ⟨rfl, rfl⟩
  | step hpart _ ih =>
    cases hw with
    | here => cases h
    | step hpart' hrest =>
      rw [List.map_cons, List.map_cons, List.cons.injEq] at h
      obtain ⟨rfl, rfl⟩ := hpart.eq_of_text hv hpart' h.1
      obtain ⟨rfl, rfl⟩ := ih (hv.of_hasPartAt hpart) hrest h.2
      exact ⟨rfl, rfl⟩

end Value

/-! ## Issues -/

open Classical in
/-- The issues at a pointer are those whose path is a location with that pointer, if no other path
of an issue has the same. -/
lemma Issue.atPointer_eq {is : List Issue} {p : Path}
    (h : ∀ i ∈ is, p.pointer = i.path.pointer → p = i.path) :
    Issue.atPointer is p.pointer = is.filter fun i => i.path = p := by
  refine List.filter_congr fun i hi => ?_
  rw [Bool.eq_iff_iff, beq_iff_eq, decide_eq_true_eq, Issue.pointer]
  exact ⟨fun heq => (h i hi heq.symm).symm, fun heq => congrArg Path.pointer heq⟩

open Classical in
/-- **Pointers identify locations.** Paths of texts, whatever their characters, have the same
pointer only if they are the same. Escapes are put in by two replacements and undone by two in the
opposite order, and unescaping undoes escaping. Two locations of one value, built from scalars,
arrays and mappings from distinct texts, have different pointers; so the issues of the value at the
pointer of a location are the issues at that location, all of them and in order. -/
theorem pointers_identify :
    (∀ ts us : List String,
      Path.pointer (ts.map Value.str) = Path.pointer (us.map Value.str) → ts = us) ∧
    (∀ text : String,
      (Pointer.escape text).toList =
        Pointer.replaceAll ['/'] ['~', '1'] (Pointer.replaceAll ['~'] ['~', '0'] text.toList) ∧
      (Pointer.unescape text).toList =
        Pointer.replaceAll ['~', '0'] ['~'] (Pointer.replaceAll ['~', '1'] ['/'] text.toList) ∧
      Pointer.unescape (Pointer.escape text) = text) ∧
    ∀ v : Value, v.IsTextKeyed → ∀ p u, v.LeadsTo p u →
      (∀ q w, v.LeadsTo q w → p.pointer = q.pointer → p = q ∧ u = w) ∧
      ∀ registry node limit is, validate registry node v limit = .ok is →
        Issue.atPointer is p.pointer = is.filter fun i => i.path = p := by
  refine ⟨fun ts us h => ?_, fun text => ⟨?_, ?_, Pointer.unescape_escape text⟩,
    fun v hv p u hu => ?_⟩
  · simpa [Value.text, Function.comp_def] using Path.pointer_eq_iff.1 h
  · rw [Pointer.escape, String.toList_ofList, Pointer.escapeChars_eq_replaceAll]
  · rw [Pointer.unescape, String.toList_ofList, Pointer.unescapeChars_eq_replaceAll]
  · have hlocation : ∀ q w, v.LeadsTo q w → p.pointer = q.pointer → p = q ∧ u = w :=
      fun q w hw h => hu.eq_of_texts hv hw (Path.pointer_eq_iff.1 h)
    refine ⟨hlocation, fun registry node limit is his => Issue.atPointer_eq fun i hi h => ?_⟩
    obtain ⟨rest, w, hpath, hw⟩ :=
      Validation.checkNode_located registry limit limit.toNat node v [] is his i hi
    rw [List.nil_append] at hpath
    rw [hpath] at h ⊢
    exact (hlocation rest w hw h).1

/-- A list under a slash, a number under what the slash is escaped as, and a mapping under no
characters at all. -/
def slashedNames : Value :=
  .mapping [(.str "/", .list [.int 0]), (.str "~1", .int 1),
    (.str "", .mapping [(.str "0", .null)])]

open Classical in
/-- A position and a digit are told apart by what is before them, and the slash is told apart from
its escape: none of the names is expected, and at the pointer of the slash there is the issue about
the slash alone. -/
theorem slashedNames_identified :
    slashedNames.LeadsTo [.str "/", .int 0] (.int 0) ∧
      slashedNames.LeadsTo [.str "", .str "0"] .null ∧
      Path.pointer [.str "/", .int 0] ≠ Path.pointer [.str "", .str "0"] ∧
      ∃ is, validate ⟨[]⟩ (.schema { additional := .flag false }) slashedNames 64 = .ok is ∧
        Issue.atPointer is "#/~1" = is.filter (fun i => i.path = [.str "/"]) ∧
        (Issue.atPointer is "#/~1").map Issue.message = ["Unexpected property '/'"] := by
  have hkeyed : slashedNames.IsTextKeyed := by
    refine .mapping ⟨by simp, by simp⟩
      (List.forall_mem_cons.2 ⟨?_, List.forall_mem_cons.2 ⟨?_, ?_⟩⟩)
    · exact .array rfl (List.forall_mem_singleton.2 (.scalar rfl))
    · exact .scalar rfl
    · exact List.forall_mem_singleton.2
        (.mapping ⟨by simp, by simp⟩ (List.forall_mem_singleton.2 (.scalar rfl)))
  have hslash : slashedNames.HasPartAt (.str "/") (.list [.int 0]) :=
    .entry (e := (.str "/", _)) (by simp)
  have hempty : slashedNames.HasPartAt (.str "") (.mapping [(.str "0", .null)]) :=
    .entry (e := (.str "", _)) (by simp)
  have hposition : slashedNames.LeadsTo [.str "/", .int 0] (.int 0) :=
    .step hslash (.step (.item (i := 0) rfl rfl) (.here _))
  have hdigit : slashedNames.LeadsTo [.str "", .str "0"] .null :=
    .step hempty (.step (.entry (e := (.str "0", .null)) List.mem_cons_self) (.here _))
  obtain ⟨-, -, hpointers⟩ := pointers_identify
  obtain ⟨-, hissues⟩ := hpointers slashedNames hkeyed [.str "/"] _ (.step hslash (.here _))
  have his : validate ⟨[]⟩ (.schema { additional := .flag false }) slashedNames 64 =
      .ok (["/", "~1", ""].map fun name => Validation.unexpectedProperty (.str name) []) := rfl
  refine ⟨hposition, hdigit, fun h => ?_, _, his, hissues _ _ _ _ his, by decide +kernel⟩
  obtain ⟨hpath, -⟩ := (hpointers slashedNames hkeyed _ _ hposition).1 _ _ hdigit h
  simp at hpath

end DataSchema
