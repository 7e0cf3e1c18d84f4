import DataSchema.Value.Mapping
import DataSchema.Value.Display

set_option autoImplicit false

/-!
# Record types

The types that a cast can build records of, and building an instance from named fields.

## Main definitions

* `DataSchema.RecordType` — mappings, lists, types that take any fields, and declared types.
* `DataSchema.RecordType.build` — an instance from named fields, or why there is none.
* `DataSchema.TypeMap` — the types known to the caller, by tag.
-/

namespace DataSchema

/-- A field of a declared record type. -/
structure FieldSpec where
  /-- The name of the field. -/
  name : String
  /-- The value of the field if none is given. -/
  default : Option Value
  /-- Whether a value can be given. -/
  settable : Bool

/-- A type that instances can be built of. -/
inductive RecordType
  /-- Plain mappings. -/
  | mapping
  /-- Lists, which take no fields. -/
  | list
  /-- A type that takes any fields. -/
  | any (name : String)
  /-- A type with declared fields. -/
  | declared (name : String) (fields : List FieldSpec)

/-- Why no instance is built. -/
inductive BuildError
  /-- A key is not a text. -/
  | keyNotText
  /-- The type takes no fields. -/
  | noFieldsTaken
  /-- Fields without a default are missing. -/
  | missingFields (type : String) (names : List String)
  /-- A field is given that the type does not have. -/
  | unexpectedField (type : String) (name : String)
  deriving DecidableEq, Repr

/-- Quoted names in a sentence: `'a'`, `'a' and 'b'`, `'a', 'b', and 'c'`. -/
def quotedList (names : List String) : String :=
  match names.map fun n => "'" ++ n ++ "'" with
  | [] => ""
  | [a] => a
  | [a, b] => a ++ " and " ++ b
  | parts => commaSeparated parts.dropLast ++ ", and " ++ parts.getLast?.getD ""

/-- The reason in words. -/
def BuildError.message : BuildError → String
  | keyNotText => "keywords must be strings"
  | noFieldsTaken => "list() takes no keyword arguments"
  | missingFields type names =>
    type ++ ".__init__() missing " ++ toString names.length ++ " required positional argument" ++
      (if names.length = 1 then "" else "s") ++ ": " ++ quotedList names
  | unexpectedField type name =>
    type ++ ".__init__() got an unexpected keyword argument '" ++ name ++ "'"

namespace RecordType

/-- The name of a type. -/
def name : RecordType → String
  | mapping => "dict"
  | list => "list"
  | any n => n
  | declared n _ => n

/-- The texts among the keys of entries, with their values, if all keys are texts. -/
def textEntries? : Entries → Option (List (String × Value))
  | [] => some []
  | (.str n, v) :: es => (textEntries? es).map ((n, v) :: ·)
  | _ :: _ => none

/-- Whether a declared type has a field of a name that can be given a value. -/
def takes (fields : List FieldSpec) (key : Value) : Bool :=
  fields.any fun f => f.settable && key.equal (.str f.name)

/-- An instance of a declared type from named fields. -/
def buildDeclared (type : String) (fields : List FieldSpec) (given : List (String × Value)) :
    Except BuildError Value :=
  let given? (f : FieldSpec) : Option Value := if f.settable then given.lookup f.name else none
  match given.find? fun g => !fields.any fun f => f.settable && f.name == g.1 with
  | some g => .error (.unexpectedField type g.1)
  | none =>
    let missing := fields.filter fun f => (given? f).isNone && f.settable && f.default.isNone
    if missing.isEmpty then
      .ok (.record type (fields.map fun f => (f.name, ((given? f).or f.default).getD .null)))
    else .error (.missingFields type (missing.map (·.name)))

/-- An instance of a type from entries. -/
def build (t : RecordType) (es : Entries) : Except BuildError Value :=
  match textEntries? es with
  | none => .error .keyNotText
  | some given =>
    match t with
    | mapping => .ok (.mapping es)
    | list => if given.isEmpty then .ok (.list []) else .error .noFieldsTaken
    | any name => .ok (.openRecord name given)
    | declared name fields => buildDeclared name fields given

/-- The entries that a type takes: a declared type takes those of its own fields, any other type
takes all. -/
def accepted (t : RecordType) (es : Entries) : Entries :=
  match t with
  | declared _ fields => es.filter fun e => takes fields e.1
  | _ => es

end RecordType

/-- The record types known to a caller, by tag. -/
inductive TypeMap
  /-- Types by name. -/
  | named (types : List (String × RecordType))
  /-- Every tag stands for plain mappings. -/
  | generic

/-- The type of a tag. -/
def TypeMap.get? (m : TypeMap) (tag : Value) : Option RecordType :=
  match m, tag with
  | generic, _ => some .mapping
  | named types, .str name => types.lookup name
  | named _, _ => none

end DataSchema
