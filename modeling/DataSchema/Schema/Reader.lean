import DataSchema.Schema.DefinitionError
import DataSchema.Fault
import DataSchema.Pattern.Reader

set_option autoImplicit false

/-!
# Reading schemas

A decoded document is read as a schema keyword by keyword. The keywords that contain schemas, and
those whose values schemas are built around, are checked; the others are kept as they are. A
strict reader refuses keywords that it does not know, and a lenient one reports them.

## Main definitions

* `DataSchema.ReadError` — why a schema is not read.
* `DataSchema.Value.readNode` — a value as a schema node.
* `DataSchema.Registry.freeze` — named nodes as a registry.
* `DataSchema.Value.readRegistry` — a mapping of schemas as a registry.
-/

namespace DataSchema

/-- Why a schema is not read. -/
inductive ReadError
  /-- The document does not define it. -/
  | definition (e : DefinitionError)
  /-- A value cannot be worked with. -/
  | fault (f : Fault)

/-- Reading schemas. -/
abbrev Reads := Traced ReadError

namespace Reads

/-- Stops with a definition error. -/
def refuse {α : Type} (e : DefinitionError) : Reads α := Traced.fail (.definition e)

end Reads

/-- Whether a reader refuses keywords that it does not know. -/
inductive Strictness
  | strict
  | lenient
  deriving DecidableEq, Repr

namespace SchemaReader

/-- Reads a child schema at a location. -/
abbrev ChildReader := Value → String → Reads Node

/-! ## Keywords -/

/-- The type keyword; null counts as absent. -/
def readType (es : Entries) (location : String) : Reads (Option TypeName) :=
  match es.get? (.str "type") with
  | none | some .null => pure none
  | some v =>
    let unknown : Reads (Option TypeName) := Reads.refuse (.unknownType v.text location)
    match v with
    | .str name =>
      match TypeName.ofText name with
      | .unknown _ => unknown
      | t => pure (some t)
    | _ => unknown

/-- The allowed values. -/
def readEnum (es : Entries) (location : String) : Reads (Option (List Value)) :=
  match es.get? (.str "enum") with
  | none => pure none
  | some (.list members) => pure (some members)
  | some _ => Reads.refuse (.enumNotList location)

/-- Why a value cannot be compiled as a pattern although it is no text. -/
def patternTypeReason (v : Value) : String :=
  match v.keyObstacle? with
  | none => "first argument must be string or compiled pattern"
  | some className => "unhashable type: '" ++ className ++ "'"

/-- The pattern keyword, which has to be a pattern. -/
def readPattern (es : Entries) (location : String) : Reads Value :=
  match es.get? (.str "pattern") with
  | none => pure .null
  | some (.str p) =>
    match CompiledPattern.ofText p with
    | .ok _ => pure (.str p)
    | .error (.malformed flaw place) =>
      Reads.refuse (.badPattern location ((PatternFault.malformed flaw place).message p))
    | .error fault => Traced.fail (.fault (.pattern fault))
  | some v => Reads.refuse (.badPattern location (patternTypeReason v))

/-- A list of named things with a name set: in place if the name is there, at the end if not. -/
def putNamed {α : Type} (xs : List (String × α)) (name : String) (a : α) : List (String × α) :=
  match xs with
  | [] => [(name, a)]
  | x :: xs => if x.1 = name then (name, a) :: xs else x :: putNamed xs name a

/-- Named things, each put over those before it. -/
def ofNamed {α : Type} (xs : List (String × α)) : List (String × α) :=
  xs.foldl (fun acc x => putNamed acc x.1 x.2) []

/-- The declared properties. -/
def readProperties (child : ChildReader) (es : Entries) (location : String) :
    Reads (Option (List (String × Node))) :=
  match es.get? (.str "properties") with
  | none => pure none
  | some (.mapping ps) => do
    let read ← ps.mapM fun p => do
      let node ← child p.2 (location ++ "/properties/" ++ p.1.text)
      return (p.1.text, node)
    return some (ofNamed read)
  | some _ => Reads.refuse (.propertiesNotMapping location)

/-- The required names. -/
def readRequired (es : Entries) (location : String) : Reads (List Value) :=
  match es.get? (.str "required") with
  | none => pure []
  | some (.list names) =>
    if names.all fun n => n.str?.isSome then pure names
    else Reads.refuse (.requiredNotNames location)
  | some _ => Reads.refuse (.requiredNotNames location)

/-- What holds for properties that are not declared. -/
def readAdditional (child : ChildReader) (es : Entries) (location : String) :
    Reads (Additional Node) :=
  match es.get? (.str "additionalProperties") with
  | none => pure .unspecified
  | some (.bool allowed) => pure (.flag allowed)
  | some v => do return .schema (← child v (location ++ "/additionalProperties"))

/-- A keyword that contains one schema. -/
def readChild (child : ChildReader) (es : Entries) (keyword location : String) :
    Reads (Option Node) :=
  match es.get? (.str keyword) with
  | none => pure none
  | some v => do return some (← child v (location ++ "/" ++ keyword))

/-- A keyword that contains several schemas. -/
def readComposition (child : ChildReader) (es : Entries) (keyword location : String) :
    Reads (Option (List Node)) :=
  let place := location ++ "/" ++ keyword
  match es.get? (.str keyword) with
  | none => pure none
  | some (.list []) => Reads.refuse (.emptyComposition place)
  | some (.list items) => do
    let nodes ← items.zipIdx.mapM fun item => child item.1 (place ++ "/" ++ toString item.2)
    return some nodes
  | some _ => Reads.refuse (.emptyComposition place)

/-- The schema names of tags; every tag and target is taken as a text. -/
def readTargets (es : Entries) : List (String × String) :=
  ofNamed (es.map fun e => (e.1.text, Pointer.lastToken e.2.text))

/-- The discriminator keyword. -/
def readDiscriminator (es : Entries) (location : String) : Reads (Option Discriminator) :=
  match es.get? (.str "discriminator") with
  | none => pure none
  | some (.mapping ds) =>
    match Entries.get? ds (.str "propertyName") with
    | some (.str name) =>
      let tags := (Entries.get? ds (.str "mapping")).getD .null
      if !tags.isTruthy then pure (some ⟨name, []⟩)
      else match tags with
        | .mapping targets => pure (some ⟨name, readTargets targets⟩)
        | _ => Reads.refuse (.tagsNotMapping location)
    | _ => Reads.refuse (.badDiscriminator location)
  | some _ => Reads.refuse (.badDiscriminator location)

/-- The target type keyword, of which there are two spellings; the second wins. -/
def readTarget (es : Entries) : TargetType :=
  match (es.get? (.str "x-target-type")).or (es.get? (.str "x-struct")) with
  | none | some .null => .absent
  | some tag => .tagged tag

/-- The keywords that have an effect or are kept. -/
def keptKeywords : List String :=
  ["format", "nullable", "minProperties", "maxProperties", "minItems", "maxItems", "uniqueItems",
    "minLength", "maxLength", "pattern", "minimum", "maximum", "exclusiveMinimum",
    "exclusiveMaximum", "multipleOf", "title", "description", "example", "default", "oneOf",
    "anyOf", "allOf", "x-struct", "x-target-type", "type", "enum", "properties", "required",
    "additionalProperties", "items", "not", "discriminator"]

/-- The keywords that are known and have no effect at all. -/
def ignoredKeywords : List String :=
  ["readOnly", "writeOnly", "deprecated", "examples", "externalDocs", "xml", "$schema"]

/-- The keys of a schema that are no known keywords. -/
def unknownKeys (es : Entries) : List Value :=
  (es.map Prod.fst).filter fun
    | .str k => !(keptKeywords.contains k || ignoredKeywords.contains k)
    | _ => true

/-- Refuses or reports unknown keywords. -/
def checkUnknown (strictness : Strictness) (es : Entries) (location : String) : Reads Unit :=
  match unknownKeys es, strictness with
  | [], _ => pure ()
  | keys, .strict => Reads.refuse (.unsupportedKeywords keys location)
  | keys, .lenient => Traced.emit (.unsupported keys location)

/-- A keyword that is kept as it is. -/
def kept (es : Entries) (keyword : String) (absent : Value) : Value :=
  (es.get? (.str keyword)).getD absent

/-! ## Schemas -/

/-- A schema that nothing conforms to. -/
def nothing : Schema := { notSchema := some (.schema {}) }

/-- A mapping that is no reference, as a schema. -/
def readSchema (strictness : Strictness) (child : ChildReader) (es : Entries) (location : String) :
    Reads Schema := do
  let type ← readType es location
  let enum ← readEnum es location
  let pattern ← readPattern es location
  let properties ← readProperties child es location
  let required ← readRequired es location
  let additional ← readAdditional child es location
  let items ← readChild child es "items" location
  let oneOf ← readComposition child es "oneOf" location
  let anyOf ← readComposition child es "anyOf" location
  let allOf ← readComposition child es "allOf" location
  let notSchema ← readChild child es "not" location
  let discriminator ← readDiscriminator es location
  checkUnknown strictness es location
  return {
    type, enum, pattern, properties, required, additional, items, oneOf, anyOf, allOf, notSchema,
    discriminator
    format := kept es "format" .null
    nullable := kept es "nullable" (.bool false)
    minProperties := kept es "minProperties" .null
    maxProperties := kept es "maxProperties" .null
    minItems := kept es "minItems" .null
    maxItems := kept es "maxItems" .null
    uniqueItems := kept es "uniqueItems" (.bool false)
    minLength := kept es "minLength" .null
    maxLength := kept es "maxLength" .null
    minimum := kept es "minimum" .null
    maximum := kept es "maximum" .null
    exclusiveMinimum := kept es "exclusiveMinimum" (.bool false)
    exclusiveMaximum := kept es "exclusiveMaximum" (.bool false)
    multipleOf := kept es "multipleOf" .null
    targetType := readTarget es
    title := kept es "title" .null
    description := kept es "description" .null
    sample := kept es "example" .null
    default := kept es "default" .null }

/-- A mapping as a schema node: a reference if it has the keyword for one. -/
def readMapping (strictness : Strictness) (child : ChildReader) (es : Entries)
    (location : String) : Reads Node :=
  match es.get? (.str "$ref") with
  | some (.str "") => Reads.refuse (.badReference location)
  | some (.str ref) => pure (.ref (Pointer.lastToken ref))
  | some _ => Reads.refuse (.badReference location)
  | none => do return .schema (← readSchema strictness child es location)

/-- A value as a schema node, if it holds schemas inside each other at most so many deep. -/
def readNode (strictness : Strictness) : Nat → ChildReader
  | 0, _, location => Reads.refuse (.tooNested location)
  | depth + 1, v, location =>
    match v with
    | .bool true => pure (.schema {})
    | .bool false => pure (.schema nothing)
    | .mapping es => readMapping strictness (readNode strictness depth) es location
    | v => Reads.refuse (.notMapping location v.className)

end SchemaReader

namespace Value

mutual

/-- How many values lie inside each other. -/
def depth : Value → Nat
  | list xs | tuple xs => listDepth xs + 1
  | mapping es => entriesDepth es + 1
  | _ => 1

/-- The greatest depth of some values. -/
def listDepth : List Value → Nat
  | [] => 0
  | x :: xs => max (depth x) (listDepth xs)

/-- The greatest depth of the values of some entries. -/
def entriesDepth : List (Value × Value) → Nat
  | [] => 0
  | (_, v) :: es => max (depth v) (entriesDepth es)

end

/-- A value as a schema node. A boolean schema accepts everything or nothing. -/
def readNode (v : Value) (strictness : Strictness) (location : String) : Reads Node :=
  SchemaReader.readNode strictness v.depth v location

end Value

/-! ## Registries -/

/-- What may stand under a name when a registry is put together. -/
inductive RegistryItem
  /-- A schema node. -/
  | node (n : Node)
  /-- Any other value. -/
  | value (v : Value)

namespace Registry

/-- The name and the node of an entry, if they are fit for a registry. -/
def checkEntry (entry : Value × RegistryItem) : Except DefinitionError (String × Node) :=
  match entry with
  | (.str "", _) => .error (.badName (.str ""))
  | (.str name, .node n) => .ok (name, n)
  | (.str name, .value v) => .error (.notNode name v.className)
  | (name, _) => .error (.badName name)

/-- Entries as a registry, the names being texts that are not empty. -/
def freeze (entries : List (Value × RegistryItem)) : Except DefinitionError Registry := do
  return ⟨← entries.mapM checkEntry⟩

end Registry

/-- The schemas of a mapping with their names, read in order. -/
def Entries.readNodes (es : Entries) (strictness : Strictness) (location : String) :
    Reads (List (Value × RegistryItem)) :=
  es.mapM fun e => do
    let node ← e.2.readNode strictness (location ++ "/" ++ e.1.text)
    return (e.1, .node node)

/-- A mapping of schemas as a registry. -/
def Value.readRegistry (v : Value) (strictness : Strictness) (location : String) : Reads Registry :=
  match v with
  | .mapping es => do
    let entries ← Entries.readNodes es strictness location
    Traced.ofExcept ((Registry.freeze entries).mapError .definition)
  | _ => Reads.refuse (.collectionNotMapping location)

end DataSchema
