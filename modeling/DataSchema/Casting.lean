import DataSchema.Validation
import DataSchema.Trace

set_option autoImplicit false

/-!
# Casting

A schema node and a value are walked side by side, and a typed value is built: texts become
numbers, truth values and dates, objects become fresh mappings or records, arrays fresh lists.
Casting stops at the first failure. Where alternatives are given, the first one is taken whose
result conforms to it, and the composed value has to conform to the rest of the schema.

## Main definitions

* `DataSchema.CastFailure` — the issues that stopped a cast, or a fault.
* `DataSchema.Casting.castSchema` — all keywords of a schema, given a caster for child nodes.
* `DataSchema.Casting.castNode` — a node, down to a given depth.
* `DataSchema.cast` — a node and a whole value.
-/

namespace DataSchema

/-- Why a cast did not produce a value. -/
inductive CastFailure
  /-- The value cannot be cast. -/
  | issues (is : List Issue)
  /-- Casting stopped. -/
  | fault (f : Fault)

/-- Casting, with the events on the way. -/
abbrev Casts := Traced CastFailure

/-- Casts a value by a node at a location, below the given references. -/
abbrev NodeCaster := Node → Value → Path → List String → Casts Value

/-- What stays the same during a cast. -/
structure CastContext where
  /-- The named schemas. -/
  registry : Registry
  /-- The known record types. -/
  types : TypeMap
  /-- The limit on nesting. -/
  limit : Int

namespace Casting

/-! ## Failing -/

/-- Fails with one issue. -/
def fail {α : Type} (kind : IssueKind) (message : String) (path : Path) : Casts α :=
  Traced.fail (.issues [⟨kind, message, path⟩])

/-- Fails with a plain cast error. -/
def failCast {α : Type} (message : String) (path : Path) : Casts α :=
  fail .castError message path

/-- Stops with a fault. -/
def stop {α : Type} (f : Fault) : Casts α := Traced.fail (.fault f)

/-- What can stop with a fault, as a cast. -/
def guarded {α : Type} (x : Except Fault α) : Casts α := Traced.ofExcept (x.mapError .fault)

/-- Fails if issues are found. -/
def require (check : Check) : Casts Unit := do
  let issues ← guarded check
  if issues.isEmpty then return () else Traced.fail (.issues issues)

/-- A cast that may fail with issues; nothing if it does. -/
def attempt (x : Casts Value) : Casts (Option Value) :=
  match x with
  | ⟨events, .ok v⟩ => ⟨events, .ok (some v)⟩
  | ⟨events, .error (.issues _)⟩ => ⟨events, .ok none⟩
  | ⟨events, .error (.fault f)⟩ => ⟨events, .error (.fault f)⟩

/-! ## Scalars -/

/-- Fails because a text cannot be converted. -/
def failFormat {α : Type} (s : Schema) (e : FormatError) (path : Path) : Casts α :=
  let goal := match s.type with
    | some t => t.text
    | none => s.format.text
  fail .invalidFormat ("Cannot cast to " ++ goal ++ ": " ++ e.message) path

/-- Fails because a value is of another kind than the type asks for. -/
def failKind {α : Type} (s : Schema) (v : Value) (path : Path) : Casts α :=
  failCast ("Cannot cast " ++ v.kindName ++ " to " ++ Validation.typeText s) path

/-- A conversion of a text. -/
def converted {α : Type} (s : Schema) (path : Path) (x : Except FormatError α) (f : α → Value) :
    Casts Value :=
  match x with
  | .ok a => pure (f a)
  | .error e => failFormat s e path

/-- Converts a text to a date with a time. -/
def castTimestamp (s : Schema) (text : String) (path : Path) : Casts Value :=
  match Timestamp.parse text with
  | .ok t => pure (.dateTime t)
  | .error (.format e) => failFormat s e path
  | .error .offCalendar => stop .offCalendar

/-- Converts a value by the type that a schema asks for. -/
def castTyped (s : Schema) (v : Value) (path : Path) : Casts Value :=
  match s.type, v with
  | none, v | some .object, v | some .array, v | some (.unknown _), v => pure v
  | some .string, .str text => pure (.str text)
  | some .number, .int n => pure (.int n)
  | some .number, .float x => pure (.float x)
  | some .number, .str text => converted s path (parseNumber (.str text)) .float
  | some .integer, .int n => pure (.int n)
  | some .integer, .float x =>
    match x.toInt? with
    | some n => pure (.int n)
    | none => failKind s v path
  | some .integer, .str text => converted s path (parseInteger (.str text)) .int
  | some .boolean, .bool b => pure (.bool b)
  | some .boolean, .str text => converted s path (parseBoolean (.str text)) .bool
  | _, v => failKind s v path

/-- Whether texts are converted to dates: the format asks for it, and the type allows it. -/
def asksForDates (s : Schema) : Bool :=
  match s.type, s.format with
  | none, .str f | some .string, .str f => f == "date" || f == "date-time"
  | _, _ => false

/-- Converts a value that is neither an object nor an array by its schema. -/
def castScalar (s : Schema) (v : Value) (path : Path) : Casts Value :=
  if asksForDates s then
    if Validation.isTemporal s.format v then pure v
    else match v, s.format with
      | .str text, .str "date-time" => castTimestamp s text path
      | .str text, _ => converted s path (parseDate (.str text)) .date
      | _, _ => castTyped s v path
  else castTyped s v path

/-! ## Objects -/

/-- The names of required properties that are missing. -/
def missingNames (data : Entries) : List Value → Except Fault (List Value)
  | [] => .ok []
  | name :: names =>
    if !name.isKey then .error .notKey
    else do
      let others ← missingNames data names
      return if data.has name then others else name :: others

/-- Fails if required properties are missing. -/
def requireNames (s : Schema) (data : Entries) (path : Path) : Casts Unit := do
  let missing ← guarded (missingNames data s.required)
  if missing.isEmpty then return ()
  else if missing.all fun n => n.str?.isSome then
    failCast ("Missing required field(s): " ++ commaSeparated (missing.map Value.text)) path
  else stop .notText

/-- Fails if there are properties that must not be there. -/
def refuseExtra (s : Schema) (extra : Entries) (path : Path) : Casts Unit :=
  match s.additional, extra with
  | .flag false, _ :: _ =>
    let names := commaSeparated (extra.map fun e => e.1.text)
    Traced.fail (.issues (⟨.castError, "Unexpected field(s): " ++ names, path⟩ ::
      extra.map fun e => Validation.unexpectedProperty e.1 path))
  | _, _ => pure ()

/-- Casts the declared properties that are there. -/
def castDeclared (child : NodeCaster) (data : Entries) (path : Path) (active : List String) :
    List (String × Node) → Casts Entries
  | [] => pure []
  | p :: ps =>
    match data.get? (.str p.1) with
    | none => castDeclared child data path active ps
    | some v => do
      let cast ← child p.2 v (path ++ [.str p.1]) active
      let others ← castDeclared child data path active ps
      return (.str p.1, cast) :: others

/-- Casts the properties that are not declared, keeps them, or leaves them out. -/
def castExtra (child : NodeCaster) (s : Schema) (extra : Entries) (path : Path)
    (active : List String) : Casts Entries :=
  match s.additional with
  | .flag true => pure extra
  | .flag false => pure []
  | .unspecified => pure (if s.properties.isNone then extra else [])
  | .schema node => extra.mapM fun e => do
    let cast ← child node e.2 (path ++ [e.1]) active
    return (e.1, cast)

/-- Fails if there are too few things or too many. -/
def requireCount (count : Nat) (least most : Value) (container things : String) (path : Path) :
    Casts Unit := do
  let few ← guarded (Validation.below count least)
  if few then
    failCast (container ++ " has fewer than " ++ least.text ++ " " ++ things) path
  let many ← guarded (Validation.above count most)
  if many then
    failCast (container ++ " has more than " ++ most.text ++ " " ++ things) path

/-- Casts an object. -/
def castObject (child : NodeCaster) (s : Schema) (v : Value) (path : Path)
    (active : List String) : Casts Value :=
  match v.objectView? s.required with
  | none => failCast ("Cannot cast " ++ v.kindName ++ " to object") path
  | some data => do
    requireNames s data path
    let extra := Validation.undeclared s data
    refuseExtra s extra path
    let declared ← castDeclared child data path active s.declared
    let others ← castExtra child s extra path active
    let result := declared ++ others
    requireCount result.length s.minProperties s.maxProperties "Object" "properties" path
    return .mapping result

/-! ## Arrays -/

/-- Fails if items are repeated that must not be. -/
def requireUnique (s : Schema) (items : List Value) (path : Path) : Casts Unit :=
  if s.uniqueItems.isTruthy then
    match Validation.firstRepeated [] 0 items with
    | some index => failCast (Validation.repeatedMessage index) path
    | none => pure ()
  else pure ()

/-- Casts the items of an array. -/
def castItems (child : NodeCaster) (s : Schema) (items : List Value) (path : Path)
    (active : List String) : Casts (List Value) :=
  match s.items with
  | none => pure items
  | some node => items.zipIdx.mapM fun item => child node item.1 (path ++ [.int item.2]) active

/-- Casts an array. -/
def castArray (child : NodeCaster) (s : Schema) (v : Value) (path : Path)
    (active : List String) : Casts Value :=
  match v.items? with
  | none => failCast ("Cannot cast " ++ v.kindName ++ " to array") path
  | some items => do
    let result ← castItems child s items path active
    requireCount result.length s.minItems s.maxItems "Array" "items" path
    requireUnique s result path
    return .list result

/-! ## The shape of a schema itself -/

/-- Whether a schema casts a value as an object: it asks for one, or it asks for no type, declares
properties, and the value is an object. -/
def castsObject (s : Schema) (v : Value) : Bool :=
  match s.type with
  | some .object => true
  | none => s.properties.isSome && v.isObject
  | some _ => false

/-- Whether a schema casts a value as an array: it asks for one, or it asks for no type, has a
schema for items, and the value is an array. -/
def castsArray (s : Schema) (v : Value) : Bool :=
  match s.type with
  | some .array => true
  | none => s.items.isSome && v.isArray
  | some _ => false

/-- Casts a value by the shape of a schema itself, without composition. -/
def castOwn (child : NodeCaster) (s : Schema) (v : Value) (path : Path) (active : List String) :
    Casts Value :=
  if castsObject s v then castObject child s v path active
  else if castsArray s v then castArray child s v path active
  else do
    let result ← castScalar s v path
    require do
      let scalar ← Validation.checkScalar s result path
      return Validation.checkEnum s result path ++ scalar
    return result

/-! ## Composition -/

/-- The entries of a value with those of what its own shape made of it put over them. -/
def overlay (v own : Value) : Entries := Entries.merge v.entries own.entries

/-- Casts an object by every member of a composition. Each sees what those before it made, and
the results are put over each other. -/
def castMembers (child : NodeCaster) (path : Path) (active : List String)
    (merged source : Entries) : List Node → Casts Value
  | [] => pure (.mapping merged)
  | node :: nodes => do
    let part ← child node (.mapping source) path active
    if part.isObject then
      castMembers child path active (Entries.merge merged part.entries)
        (Entries.merge source part.entries) nodes
    else
      failCast ("allOf member produced " ++ part.kindName ++ " for an object value") path

/-- Casts a value by one node after another. -/
def castInTurn (child : NodeCaster) (path : Path) (active : List String) (v : Value) :
    List Node → Casts Value
  | [] => pure v
  | node :: nodes => do
    let next ← child node v path active
    castInTurn child path active next nodes

/-- Casts a value by all members of a composition. Of an object, the declared properties that
its own shape made come first. -/
def castAllOf (child : NodeCaster) (s : Schema) (v own : Value) (path : Path)
    (active : List String) : Casts Value :=
  if s.allOfList.isEmpty then pure own
  else if v.isObject then
    castMembers child path active (if s.properties.isSome then own.entries else [])
      (overlay v own) s.allOfList
  else castInTurn child path active own s.allOfList

/-- The keyword whose alternatives are tried. -/
def alternativesKeyword (s : Schema) : String :=
  if s.oneOfList.isEmpty then "anyOf" else "oneOf"

/-- The alternatives that are tried. -/
def alternatives (s : Schema) : List Node :=
  if s.oneOfList.isEmpty then s.anyOfList else s.oneOfList

/-- What a schema and the alternative that was chosen make together. -/
def combine (s : Schema) (own chosen : Value) : Value :=
  if s.properties.isNone && s.allOfList.isEmpty then chosen
  else if own.isObject && chosen.isObject then .mapping (Entries.merge own.entries chosen.entries)
  else chosen

/-- The first alternative whose result conforms to it, and that result. -/
def firstMatch (child : NodeCaster) (check : NodeChecker) (source : Value) (path : Path)
    (active : List String) (index : Nat) : List Node → Casts (Option (Nat × Value))
  | [] => pure none
  | node :: nodes => do
    match ← attempt (child node source path active) with
    | none => firstMatch child check source path active (index + 1) nodes
    | some result =>
      if ← guarded (Validation.conforms check node result path) then return some (index, result)
      firstMatch child check source path active (index + 1) nodes

/-- Casts a value by the first alternative that fits. -/
def castAlternative (child : NodeCaster) (check : NodeChecker) (s : Schema) (v own : Value)
    (path : Path) (active : List String) : Casts Value :=
  if s.hasAlternatives then do
    let source := if v.isObject then .mapping (overlay v own) else own
    match ← firstMatch child check source path active 0 (alternatives s) with
    | some (index, chosen) =>
      Traced.emit (.matched (alternativesKeyword s) path index)
      return combine s own chosen
    | none =>
      fail .noneMatched (Validation.noneMatchedMessage (alternativesKeyword s)) path
  else pure own

/-! ## Discriminators -/

/-- Casts by the schema that a discriminator selects. Nothing is selected if the value does not
have the property, or if the selected schema is being cast already. -/
def dispatch (child : NodeCaster) (registry : Registry) (s : Schema) (v : Value) (path : Path)
    (active : List String) : Casts (Option Value) :=
  match s.discriminator, v with
  | some d, .mapping es =>
    let place := path ++ [.str d.propertyName]
    match Entries.get? es (.str d.propertyName) with
    | none => pure none
    | some tag =>
      match d.target? tag with
      | none => failCast ("Invalid discriminator value for '" ++ d.propertyName ++ "'") place
      | some target =>
        if active.contains target then pure none
        else if (registry.get? target).isNone then
          failCast ("Discriminator '" ++ d.propertyName ++ "' names unknown schema '" ++ target ++
            "'") place
        else do
          Traced.emit (.dispatched d.propertyName tag path target)
          let result ← child (.ref target) v path active
          return some result
  | _, _ => pure none

/-! ## Records -/

/-- The record type that a schema asks for. -/
def targetType (types : TypeMap) (s : Schema) (path : Path) : Casts (Option RecordType) :=
  match s.targetType with
  | .absent => pure none
  | .type t => pure (some t)
  | .tagged tag =>
    if !tag.isKey then stop .notKey
    else match types.get? tag with
      | some t => pure (some t)
      | none => failCast ("Unknown target type '" ++ tag.text ++ "'") path

/-- Builds a record of the type that a schema asks for from a mapping. -/
def materialize (types : TypeMap) (s : Schema) (v : Value) (path : Path) : Casts Value := do
  match ← targetType types s path, v with
  | some t, .mapping es =>
    match t.build (t.accepted es) with
    | .ok record => return record
    | .error e => failCast ("Cannot build " ++ t.name ++ ": " ++ e.message) path
  | _, v => return v

/-! ## Nodes -/

/-- Fails if a composed value does not conform to its schema, the alternatives left out, or if it
conforms to the schema that it must not conform to. -/
def requireWhole (check : NodeChecker) (s : Schema) (v : Value) (path : Path) : Casts Unit := do
  if s.isComposed then require (check (.schema s.withoutAlternatives) v path)
  match s.notSchema with
  | none => return ()
  | some node =>
    if ← guarded (Validation.conforms check node v path) then
      failCast Validation.unexpectedMatchMessage path

/-- Casts a value by a schema that selects no other. -/
def castComposed (context : CastContext) (child : NodeCaster) (check : NodeChecker) (s : Schema)
    (v : Value) (path : Path) (active : List String) : Casts Value := do
  let own ← castOwn child s v path active
  let all ← castAllOf child s v own path active
  let result ← castAlternative child check s v all path active
  requireWhole check s result path
  materialize context.types s result path

/-- Casts a value by a schema. -/
def castSchema (context : CastContext) (child : NodeCaster) (check : NodeChecker) (s : Schema)
    (v : Value) (path : Path) (active : List String) : Casts Value :=
  if v.isNull && s.nullable.isTruthy then pure .null
  else if v.isNull && s.type.isSome then
    failCast ("Cannot cast null to " ++ Validation.typeText s) path
  else do
    match ← dispatch child context.registry s v path active with
    | some result => return result
    | none => castComposed context child check s v path active

/-- Casts a value by what a node stands for. -/
def castResolved (context : CastContext) (child : NodeCaster) (check : NodeChecker) (node : Node)
    (v : Value) (path : Path) (active : List String) : Casts Value :=
  match node with
  | .schema s => castSchema context child check s v path active
  | .ref name =>
    match context.registry.get? name with
    | none => fail .schemaNotFound (Registry.notFoundMessage name) path
    | some (.schema s) => castSchema context child check s v path (name :: active)
    | some link => child link v path (name :: active)

/-- Casts a value by a node, down to a given depth. -/
def castNode (context : CastContext) : Nat → NodeCaster
  | 0, _, _, path, _ => stop (.tooDeep context.limit path)
  | depth + 1, node, v, path, active =>
    castResolved context (castNode context depth)
      (Validation.checkNode context.registry context.limit depth) node v path active

end Casting

/-- What a cast made of a value. -/
inductive CastResult
  /-- The typed value. -/
  | ok (v : Value)
  /-- What prevented it. -/
  | failed (issues : List Issue)

namespace CastResult

/-- The issues of a result; none if the cast succeeded. -/
def issues : CastResult → List Issue
  | ok _ => []
  | failed is => is

/-- A result in words. -/
def text : CastResult → String
  | ok v => "ok: " ++ v.literal
  | failed is => Issue.lines is

end CastResult

/-- The result of casting a whole value, with nesting up to a limit. -/
def cast (context : CastContext) (node : Node) (v : Value) : Traced Fault CastResult :=
  match Casting.castNode context context.limit.toNat node v [] [] with
  | ⟨events, .ok v⟩ => ⟨events, .ok (.ok v)⟩
  | ⟨events, .error (.issues is)⟩ => ⟨events, .ok (.failed is)⟩
  | ⟨events, .error (.fault f)⟩ => ⟨events, .error f⟩

end DataSchema
