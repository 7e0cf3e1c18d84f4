import DataSchema.Value.Basic

set_option autoImplicit false

/-!
# Equality of values

Two equalities. *Plain* equality is that of mapping keys and record fields: numbers are compared
exactly whatever their kind, and a truth value is the number zero or one. *JSON* equality keeps
truth values apart from numbers, takes arrays of both kinds alike, and falls back on the plain one.

## Main definitions

* `DataSchema.Value.equal` — plain equality.
* `DataSchema.Value.jsonEqual` — JSON equality.
* `DataSchema.Value.sameKey` — whether two values are one key of a mapping.
-/

namespace DataSchema

namespace Value

mutual

/-- Plain equality. Arrays of the two kinds differ; so do instances of different record types,
while instances that take any fields are compared by their fields alone. -/
def equal : Value → Value → Bool
  | null, null => true
  | str a, str b => a == b
  | date a, date b => a == b
  | dateTime a, dateTime b => a.same b
  | list as, list bs => equalItems as bs
  | tuple as, tuple bs => equalItems as bs
  | mapping as, mapping bs => as.length == bs.length && equalEntries as bs
  | record s as, record t bs => s == t && equalFields as bs
  | openRecord _ as, openRecord _ bs => as.length == bs.length && equalAttributes as bs
  | bool a, b => equalsNumber (.int (if a then 1 else 0)) b
  | int a, b => equalsNumber (.int a) b
  | float a, b => equalsNumber (.float a) b
  | _, _ => false
termination_by structural v => v

/-- Whether a number equals the number that a value counts as. -/
def equalsNumber (n : Number) (v : Value) : Bool :=
  match v.operand? with
  | some m => n.equal m
  | none => false

/-- Plain equality of items, one by one. -/
def equalItems : List Value → List Value → Bool
  | [], [] => true
  | a :: as, b :: bs => equal a b && equalItems as bs
  | _, _ => false
termination_by structural vs => vs

/-- Whether every entry has an equal one in a mapping. -/
def equalEntries : List (Value × Value) → List (Value × Value) → Bool
  | [], _ => true
  | (k, v) :: es, bs => (bs.any fun e => equal k e.1 && equal v e.2) && equalEntries es bs
termination_by structural es => es

/-- Plain equality of fields in order. -/
def equalFields : List (String × Value) → List (String × Value) → Bool
  | [], [] => true
  | (n, a) :: as, (m, b) :: bs => n == m && equal a b && equalFields as bs
  | _, _ => false
termination_by structural fs => fs

/-- Whether every field has an equal one of the same name. -/
def equalAttributes : List (String × Value) → List (String × Value) → Bool
  | [], _ => true
  | (n, v) :: fs, bs => (bs.any fun f => n == f.1 && equal v f.2) && equalAttributes fs bs
termination_by structural fs => fs

end

/-- Whether two values are one key of a mapping. Not-a-number is a key like any other. -/
def sameKey (a b : Value) : Bool :=
  match a, b with
  | float .nan, float .nan => true
  | a, b => equal a b

mutual

/-- JSON equality. -/
def jsonEqual : Value → Value → Bool
  | bool a, bool b => a == b
  | bool _, _ | _, bool _ => false
  | list as, list bs | list as, tuple bs => jsonEqualItems as bs
  | tuple as, list bs | tuple as, tuple bs => jsonEqualItems as bs
  | mapping as, mapping bs => as.length == bs.length && jsonEqualEntries as bs
  | a, b => equal a b
termination_by structural v => v

/-- JSON equality of items, one by one. -/
def jsonEqualItems : List Value → List Value → Bool
  | [], [] => true
  | a :: as, b :: bs => jsonEqual a b && jsonEqualItems as bs
  | _, _ => false
termination_by structural vs => vs

/-- Whether every entry has one with an equal key in a mapping, and JSON-equal values. -/
def jsonEqualEntries : List (Value × Value) → List (Value × Value) → Bool
  | [], _ => true
  | (k, v) :: es, bs =>
    (match bs.find? fun e => equal k e.1 with
      | some (_, w) => jsonEqual v w
      | none => false) && jsonEqualEntries es bs
termination_by structural es => es

end

end Value

end DataSchema
