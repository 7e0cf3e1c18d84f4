import DataSchema.Schema.Basic
import DataSchema.Issue
import DataSchema.Fault
import DataSchema.Format.Check
import DataSchema.Pattern.Matcher

set_option autoImplicit false

/-!
# Validation

A schema node and a value are walked side by side, and every issue on the way is collected. Each
group of keywords is checked on its own, given a checker for child nodes; the recursion over
nodes is a single function of the depth that is left.

## Main definitions

* `DataSchema.Check` — the issues found, or why checking stopped.
* `DataSchema.Validation.checkSchema` — all keywords of a schema, given a checker for child nodes.
* `DataSchema.Validation.checkNode` — a node, down to a given depth.
* `DataSchema.validate` — a node and a whole value.
-/

namespace DataSchema

/-- The issues found, or why checking stopped. -/
abbrev Check := Except Fault (List Issue)

/-- Checks a value against a node at a location. -/
abbrev NodeChecker := Node → Value → Path → Check

namespace Validation

/-! ## Comparison with keywords -/

/-- The number that a keyword holds. -/
def keywordNumber (keyword : Value) : Except Fault Number :=
  match keyword.operand? with
  | some n => .ok n
  | none => .error .unordered

/-- Whether a count is below the number that a keyword holds, if the keyword is there. -/
def below (count : Nat) (keyword : Value) : Except Fault Bool :=
  if keyword.isNull then .ok false
  else (keywordNumber keyword).map fun bound => (Number.int count).less bound

/-- Whether a count is above the number that a keyword holds, if the keyword is there. -/
def above (count : Nat) (keyword : Value) : Except Fault Bool :=
  if keyword.isNull then .ok false
  else (keywordNumber keyword).map fun bound => bound.less (.int count)

/-- A violated constraint. -/
def violation (message : String) (path : Path) : Issue := ⟨.constraintViolation, message, path⟩

/-- One issue if a condition holds. -/
def issueIf (holds : Bool) (issue : Issue) : List Issue := if holds then [issue] else []

/-- The issues found for each of several things, in order. -/
def gather {α : Type} (xs : List α) (f : α → Check) : Check := (xs.mapM f).map List.flatten

/-! ## Type and enumeration -/

/-- Whether a value is a date or a date with a time as the format asks for. -/
def isTemporal (format v : Value) : Bool :=
  match format, v with
  | .str "date-time", .dateTime _ | .str "date", .date _ => true
  | _, _ => false

/-- Whether a value is of the type that a schema asks for. -/
def hasType (s : Schema) (v : Value) : Bool :=
  match s.type with
  | none | some (.unknown _) => true
  | some .string => v.str?.isSome || isTemporal s.format v
  | some .integer => v.isInteger
  | some .number => v.isNumber
  | some .boolean => match v with
    | .bool _ => true
    | _ => false
  | some .object => v.isObject
  | some .array => v.isArray

/-- The name of the type that a schema asks for. -/
def typeText (s : Schema) : String :=
  match s.type with
  | some t => t.text
  | none => "None"

/-- A value of the wrong type. -/
def wrongType (s : Schema) (kind : String) (path : Path) : Issue :=
  ⟨.wrongType, "Invalid type: expected " ++ typeText s ++ ", got " ++ kind, path⟩

/-- Checks the type. -/
def checkType (s : Schema) (v : Value) (path : Path) : List Issue :=
  issueIf (!hasType s v) (wrongType s v.kindName path)

/-- Checks that a value is one of those that are allowed. -/
def checkEnum (s : Schema) (v : Value) (path : Path) : List Issue :=
  match s.enum with
  | none => []
  | some members =>
    issueIf (!members.any v.jsonEqual)
      ⟨.notInEnum,
        "Value " ++ v.literal ++ " is not one of: " ++ commaSeparated (members.map Value.literal),
        path⟩

/-! ## Texts and numbers -/

/-- Whether the pattern of a keyword occurs in a text. -/
def patternOccurs (pattern : Value) (text : String) : Except Fault Bool :=
  match pattern with
  | .str p =>
    match CompiledPattern.ofText p with
    | .ok compiled => .ok (compiled.occursIn text)
    | .error fault => .error (.pattern fault)
  | _ => .error .notText

/-- Checks the length of a text and its pattern. -/
def checkText (s : Schema) (text : String) (path : Path) : Check := do
  let short ← below text.length s.minLength
  let long ← above text.length s.maxLength
  let mismatch ← if s.pattern.isNull then pure false else (patternOccurs s.pattern text).map not
  return issueIf short
      (violation ("String is shorter than " ++ s.minLength.text ++ " characters") path) ++
    issueIf long
      (violation ("String is longer than " ++ s.maxLength.text ++ " characters") path) ++
    issueIf mismatch
      (violation ("String does not match pattern '" ++ s.pattern.text ++ "'") path)

/-- Checks a number against one bound, given the order in which they are to stand. The words are
for a bound that is excluded and one that is not. -/
def checkBound (n : Number) (v bound exclusive : Value) (strictly weakly : Number → Number → Bool)
    (excludedWords includedWords : String) (path : Path) : Check :=
  if bound.isNull then .ok []
  else do
    let b ← keywordNumber bound
    let message (words : String) : Issue :=
      violation ("Value " ++ v.text ++ " must be " ++ words ++ " " ++ bound.text) path
    if exclusive.isTruthy && weakly n b then return [message excludedWords]
    return issueIf (strictly n b) (message includedWords)

/-- Checks that a number is a multiple of what a keyword holds, if that counts as set. -/
def checkMultiple (n : Number) (v divisor : Value) (path : Path) : Check :=
  if !divisor.isTruthy then .ok []
  else
    match divisor.operand? with
    | none => .error .notDivisor
    | some d =>
      match n.isMultiple d with
      | .ok multiple =>
        .ok (issueIf (!multiple)
          (violation ("Value " ++ v.text ++ " is not a multiple of " ++ divisor.text) path))
      | .error fault => .error (.arithmetic fault)

/-- Checks the bounds of a number and what it is a multiple of. -/
def checkNumber (s : Schema) (n : Number) (v : Value) (path : Path) : Check := do
  let low ← checkBound n v s.minimum s.exclusiveMinimum Number.less Number.atMost
    "greater than" "at least" path
  let high ← checkBound n v s.maximum s.exclusiveMaximum (fun a b => b.less a)
    (fun a b => b.atMost a) "less than" "at most" path
  let multiple ← checkMultiple n v s.multipleOf path
  return low ++ high ++ multiple

/-- Checks the format. -/
def checkFormatKeyword (s : Schema) (v : Value) (path : Path) : Check := do
  match ← checkFormat v s.format with
  | some reason => return [⟨.invalidFormat, reason, path⟩]
  | none => return []

/-- Checks the keywords for texts, numbers and formats. -/
def checkScalar (s : Schema) (v : Value) (path : Path) : Check := do
  let text ← match v with
    | .str text => checkText s text path
    | _ => pure []
  let number ← match v.number? with
    | some n => checkNumber s n v path
    | none => pure []
  let format ← checkFormatKeyword s v path
  return text ++ number ++ format

/-! ## Objects -/

/-- Checks the declared properties that are there. -/
def checkProperties (child : NodeChecker) (s : Schema) (data : Entries) (path : Path) : Check :=
  gather s.declared fun p =>
    match data.get? (.str p.1) with
    | some v => child p.2 v (path ++ [.str p.1])
    | none => .ok []

/-- Checks that a required name is there. -/
def checkRequiredName (data : Entries) (path : Path) (name : Value) : Check :=
  if !name.isKey then .error .notKey
  else .ok (issueIf (!data.has name)
    ⟨.missingRequiredProperty, "Missing required property '" ++ name.text ++ "'", path⟩)

/-- The entries whose keys are not declared. -/
def undeclared (s : Schema) (data : Entries) : Entries := data.filter fun e => !s.declares e.1

/-- A property that must not be there. -/
def unexpectedProperty (key : Value) (path : Path) : Issue :=
  ⟨.unexpectedProperty, "Unexpected property '" ++ key.text ++ "'", path ++ [key]⟩

/-- Checks the properties that are not declared. -/
def checkAdditional (child : NodeChecker) (s : Schema) (data : Entries) (path : Path) : Check :=
  match s.additional with
  | .unspecified | .flag true => .ok []
  | .flag false => .ok ((undeclared s data).map fun e => unexpectedProperty e.1 path)
  | .schema node => gather (undeclared s data) fun e => child node e.2 (path ++ [e.1])

/-- Checks the number of properties. -/
def checkPropertyCount (s : Schema) (count : Nat) (path : Path) : Check := do
  let few ← below count s.minProperties
  let many ← above count s.maxProperties
  return issueIf few
      (violation ("Object has fewer than " ++ s.minProperties.text ++ " properties") path) ++
    issueIf many
      (violation ("Object has more than " ++ s.maxProperties.text ++ " properties") path)

/-- Checks the keywords for objects. -/
def checkObject (child : NodeChecker) (s : Schema) (v : Value) (path : Path) : Check :=
  match v.objectView? s.required with
  | none => .ok []
  | some data => do
    let declared ← checkProperties child s data path
    let required ← gather s.required (checkRequiredName data path)
    let additional ← checkAdditional child s data path
    let count ← checkPropertyCount s data.length path
    return declared ++ required ++ additional ++ count

/-! ## Arrays -/

/-- The index of the first value that equals one before it. -/
def firstRepeated (earlier : List Value) (index : Nat) : List Value → Option Nat
  | [] => none
  | v :: vs => if earlier.any v.jsonEqual then some index
    else firstRepeated (earlier ++ [v]) (index + 1) vs

/-- What is said of a repeated item. -/
def repeatedMessage (index : Nat) : String :=
  "Array items are not unique (duplicate at index " ++ toString index ++ ")"

/-- Checks the items of an array. -/
def checkItems (child : NodeChecker) (s : Schema) (items : List Value) (path : Path) : Check :=
  match s.items with
  | none => .ok []
  | some node => gather items.zipIdx fun item => child node item.1 (path ++ [.int item.2])

/-- Checks the number of items. -/
def checkItemCount (s : Schema) (count : Nat) (path : Path) : Check := do
  let few ← below count s.minItems
  let many ← above count s.maxItems
  return issueIf few
      (violation ("Array has fewer than " ++ s.minItems.text ++ " items") path) ++
    issueIf many
      (violation ("Array has more than " ++ s.maxItems.text ++ " items") path)

/-- Checks that no two items are equal. -/
def checkUnique (s : Schema) (items : List Value) (path : Path) : List Issue :=
  if s.uniqueItems.isTruthy then
    match firstRepeated [] 0 items with
    | some index => [violation (repeatedMessage index) path]
    | none => []
  else []

/-- Checks the keywords for arrays. -/
def checkArray (child : NodeChecker) (s : Schema) (v : Value) (path : Path) : Check :=
  match v.items? with
  | none => .ok []
  | some items => do
    let each ← checkItems child s items path
    let count ← checkItemCount s items.length path
    return each ++ count ++ checkUnique s items path

/-! ## Composition -/

/-- Whether a value conforms to a node. -/
def conforms (child : NodeChecker) (node : Node) (v : Value) (path : Path) : Except Fault Bool :=
  (child node v path).map List.isEmpty

/-- Whether a value conforms to one of several nodes; those after it are left out. -/
def conformsToAny (child : NodeChecker) (v : Value) (path : Path) : List Node → Except Fault Bool
  | [] => .ok false
  | node :: nodes => do
    if ← conforms child node v path then return true
    conformsToAny child v path nodes

/-- The number of nodes that a value conforms to. -/
def conformingCount (child : NodeChecker) (v : Value) (path : Path) :
    List Node → Except Fault Nat
  | [] => .ok 0
  | node :: nodes => do
    let one ← conforms child node v path
    let others ← conformingCount child v path nodes
    return (if one then 1 else 0) + others

/-- What is said when no alternative of a keyword conforms. -/
def noneMatchedMessage (keyword : String) : String :=
  "Value does not match any schema in " ++ keyword

/-- Checks that at least one alternative conforms. -/
def checkAnyOf (child : NodeChecker) (s : Schema) (v : Value) (path : Path) : Check :=
  if s.anyOfList.isEmpty then .ok []
  else do
    let any ← conformsToAny child v path s.anyOfList
    return issueIf (!any) ⟨.noneMatched, noneMatchedMessage "anyOf", path⟩

/-- Checks that exactly one alternative conforms. -/
def checkOneOf (child : NodeChecker) (s : Schema) (v : Value) (path : Path) : Check :=
  if s.oneOfList.isEmpty then .ok []
  else do
    let count ← conformingCount child v path s.oneOfList
    if count = 0 then return [⟨.noneMatched, noneMatchedMessage "oneOf", path⟩]
    return issueIf (1 < count)
      ⟨.ambiguousMatch,
        "Value matches " ++ toString count ++ " schemas in oneOf, expected exactly one", path⟩

/-- What is said when a value conforms to the schema that it must not conform to. -/
def unexpectedMatchMessage : String := "Value must not match the schema in not"

/-- Checks that a value does not conform. -/
def checkNot (child : NodeChecker) (s : Schema) (v : Value) (path : Path) : Check :=
  match s.notSchema with
  | none => .ok []
  | some node => do
    let matching ← conforms child node v path
    return issueIf matching ⟨.unexpectedMatch, unexpectedMatchMessage, path⟩

/-- Checks the keywords that compose schemas. -/
def checkComposition (child : NodeChecker) (s : Schema) (v : Value) (path : Path) : Check := do
  let all ← gather s.allOfList fun node => child node v path
  let any ← checkAnyOf child s v path
  let one ← checkOneOf child s v path
  let not ← checkNot child s v path
  return all ++ any ++ one ++ not

/-! ## Nodes -/

/-- Checks all keywords of a schema. -/
def checkKeywords (child : NodeChecker) (s : Schema) (v : Value) (path : Path) : Check := do
  let scalar ← checkScalar s v path
  let object ← checkObject child s v path
  let array ← checkArray child s v path
  let composition ← checkComposition child s v path
  return checkType s v path ++ checkEnum s v path ++ scalar ++ object ++ array ++ composition

/-- Checks a value against a schema. Null conforms where it is allowed, and where it is not it
has the wrong type, if a type is asked for. -/
def checkSchema (child : NodeChecker) (s : Schema) (v : Value) (path : Path) : Check :=
  if v.isNull && s.nullable.isTruthy then .ok []
  else if v.isNull && s.type.isSome then .ok [wrongType s "null" path]
  else checkKeywords child s v path

/-- Checks a value against what a node stands for. A reference to a reference takes a further
step down. -/
def checkResolved (registry : Registry) (child : NodeChecker) (node : Node) (v : Value)
    (path : Path) : Check :=
  match node with
  | .schema s => checkSchema child s v path
  | .ref name =>
    match registry.get? name with
    | none => .ok [⟨.schemaNotFound, Registry.notFoundMessage name, path⟩]
    | some (.schema s) => checkSchema child s v path
    | some link => child link v path

/-- Checks a value against a node, down to a given depth. -/
def checkNode (registry : Registry) (limit : Int) : Nat → NodeChecker
  | 0, _, _, path => .error (.tooDeep limit path)
  | depth + 1, node, v, path =>
    checkResolved registry (checkNode registry limit depth) node v path

end Validation

/-- The issues of a whole value, with nesting up to a limit. -/
def validate (registry : Registry) (node : Node) (v : Value) (limit : Int) : Check :=
  Validation.checkNode registry limit limit.toNat node v []

end DataSchema
