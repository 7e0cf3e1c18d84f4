import DataSchema.Value.Display

set_option autoImplicit false

/-!
# Pointers

A location inside a value is a path of tokens: keys of mappings, names of fields, positions in
arrays. It is rendered as a JSON pointer in fragment form, such as `#/user/emails/0`.

## Main definitions

* `DataSchema.Path` — a location.
* `DataSchema.Pointer.escape`, `DataSchema.Pointer.unescape` — the escapes of a pointer token.
* `DataSchema.Path.pointer` — a location as a pointer.
* `DataSchema.Pointer.lastToken` — the name that a reference points at.

## Main results

* `DataSchema.Pointer.unescapeChars_escapeChars` — unescaping undoes escaping.
-/

namespace DataSchema

/-- A location inside a value, from the root. -/
abbrev Path := List Value

namespace Pointer

/-- The tilde becomes `~0` and the slash `~1`. -/
def escapeChars : List Char → List Char
  | [] => []
  | '~' :: cs => '~' :: '0' :: escapeChars cs
  | '/' :: cs => '~' :: '1' :: escapeChars cs
  | c :: cs => c :: escapeChars cs

/-- `~1` becomes the slash and `~0` the tilde; a tilde before anything else stays. -/
def unescapeChars : List Char → List Char
  | [] => []
  | '~' :: '1' :: cs => '/' :: unescapeChars cs
  | '~' :: '0' :: cs => '~' :: unescapeChars cs
  | c :: cs => c :: unescapeChars cs

/-- A text as a pointer token. -/
def escape (s : String) : String := String.ofList (escapeChars s.toList)

/-- The text of a pointer token. -/
def unescape (s : String) : String := String.ofList (unescapeChars s.toList)

/-- Unescaping undoes escaping. -/
theorem unescapeChars_escapeChars (cs : List Char) : unescapeChars (escapeChars cs) = cs := by
  fun_induction escapeChars cs with
  | case1 => rfl
  | case2 cs ih => simp [unescapeChars, ih]
  | case3 cs ih => simp [unescapeChars, ih]
  | case4 c cs htilde _ ih => rw [unescapeChars.eq_4 _ _ (by simp_all) (by simp_all), ih]

/-- The last token of a reference such as `#/components/schemas/Name`; a reference without a
slash is a name as it stands. -/
def lastToken (ref : String) : String :=
  let cs := ref.toList
  if cs.contains '/' then
    String.ofList (unescapeChars (cs.reverse.takeWhile (· ≠ '/')).reverse)
  else ref

end Pointer

/-- A location as a pointer in fragment form. -/
def Path.pointer (p : Path) : String :=
  "#" ++ String.join (p.map fun token => "/" ++ Pointer.escape token.text)

end DataSchema
