import DataSchema.Value.Equality

set_option autoImplicit false

/-!
# Mappings and object views

Operations on the entries of a mapping, and the view of a mapping or a record as entries.

## Main definitions

* `DataSchema.Entries` — the entries of a mapping, in order.
* `DataSchema.Entries.get?`, `put`, `merge` — look-up, replacement, and union.
* `DataSchema.Value.objectView?` — an object value as entries.
-/

namespace DataSchema

/-- The entries of a mapping, in order. -/
abbrev Entries := List (Value × Value)

namespace Entries

/-- The value of a key. -/
def get? (es : Entries) (k : Value) : Option Value :=
  (es.find? fun e => e.1.sameKey k).map Prod.snd

/-- Whether a key is present. -/
def has (es : Entries) (k : Value) : Bool := (get? es k).isSome

/-- The entries with a key set to a value: in place if the key is present, at the end if not. -/
def put (es : Entries) (k v : Value) : Entries :=
  match es with
  | [] => [(k, v)]
  | e :: es => if e.1.sameKey k then (e.1, v) :: es else e :: put es k v

/-- The entries of the first list with those of the second put over them. -/
def merge (es fs : Entries) : Entries := fs.foldl (fun acc f => put acc f.1 f.2) es

/-- The entries in order, each put over those before it. Not-a-number never equals a key that is
already there. -/
def ofList (es : Entries) : Entries :=
  es.foldl (fun acc e =>
    match e.1 with
    | .float .nan => acc ++ [e]
    | _ => put acc e.1 e.2) []

end Entries

namespace Value

/-- An object value as entries. The fields of a record are its entries; a null field counts as
absent unless its name is required. -/
def objectView? (v : Value) (required : List Value) : Option Entries :=
  match v with
  | mapping es => some es
  | record _ fs =>
    some ((fs.filter fun f => !f.2.isNull || required.any (·.equal (.str f.1))).map
      fun f => (.str f.1, f.2))
  | _ => none

/-- The entries of an object value, and none of any other value. -/
def entries (v : Value) : Entries := (v.objectView? []).getD []

end Value

end DataSchema
