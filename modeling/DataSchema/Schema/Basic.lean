import DataSchema.Record

set_option autoImplicit false

/-!
# Schemas

The schema model. A node is a reference to a named schema or a schema; a schema has one field for
each keyword. Keywords whose values are not looked at when a schema is read keep the value that
was given, whatever its kind; the null value stands for an absent keyword unless the field says
otherwise.

## Main definitions

* `DataSchema.TypeName` — the types that a schema can ask for.
* `DataSchema.Keywords` — the keywords of a schema, over the nodes they contain.
* `DataSchema.Node`, `DataSchema.Schema` — schema nodes.
* `DataSchema.Registry` — named nodes, in order.
-/

namespace DataSchema

/-- The types that a schema can ask for. A name that is not known asks for nothing. -/
inductive TypeName
  | string
  | number
  | integer
  | boolean
  | object
  | array
  | unknown (name : String)
  deriving DecidableEq, Repr

namespace TypeName

/-- The name of a type. -/
def text : TypeName → String
  | string => "string"
  | number => "number"
  | integer => "integer"
  | boolean => "boolean"
  | object => "object"
  | array => "array"
  | unknown name => name

/-- The known types. -/
def known : List TypeName := [string, number, integer, boolean, object, array]

/-- The type of a name. -/
def ofText (name : String) : TypeName :=
  (known.find? fun t => t.text == name).getD (unknown name)

end TypeName

/-- How a schema says which of several named schemas applies: by the value of a property, looked
up among the tags, or taken as a name itself. -/
structure Discriminator where
  /-- The property that is looked at. -/
  propertyName : String
  /-- The schema names of tags. -/
  targets : List (String × String)

/-- The name of the schema that a tag selects, if the tag is a text that is not empty. -/
def Discriminator.target? (d : Discriminator) : Value → Option String
  | .str tag => if tag = "" then none else some ((d.targets.lookup tag).getD tag)
  | _ => none

/-- What a schema says about properties that it does not declare. -/
inductive Additional (ν : Type)
  /-- Nothing. -/
  | unspecified
  /-- They are allowed, or they are not. -/
  | flag (allowed : Bool)
  /-- Their values conform to a node. -/
  | schema (node : ν)

/-- The type of the records that a cast builds. -/
inductive TargetType
  /-- None. -/
  | absent
  /-- A type that the caller knows by a tag. -/
  | tagged (tag : Value)
  /-- A type as such. -/
  | type (t : RecordType)

/-- The keywords of a schema whose child nodes have the type `ν`. -/
structure Keywords (ν : Type) where
  /-- The type that is asked for. -/
  type : Option TypeName := none
  /-- The name of a format. -/
  format : Value := .null
  /-- The values that are allowed. -/
  enum : Option (List Value) := none
  /-- Whether null conforms. -/
  nullable : Value := .bool false
  /-- The declared properties. -/
  properties : Option (List (String × ν)) := none
  /-- The names of the properties that must be there. -/
  required : List Value := []
  /-- What holds for properties that are not declared. -/
  additional : Additional ν := .unspecified
  /-- The least number of properties. -/
  minProperties : Value := .null
  /-- The greatest number of properties. -/
  maxProperties : Value := .null
  /-- What the items of an array conform to. -/
  items : Option ν := none
  /-- The least number of items. -/
  minItems : Value := .null
  /-- The greatest number of items. -/
  maxItems : Value := .null
  /-- Whether no two items are equal. -/
  uniqueItems : Value := .bool false
  /-- The least length of a text. -/
  minLength : Value := .null
  /-- The greatest length of a text. -/
  maxLength : Value := .null
  /-- A pattern that occurs in a text. -/
  pattern : Value := .null
  /-- The least number. -/
  minimum : Value := .null
  /-- The greatest number. -/
  maximum : Value := .null
  /-- Whether the least number itself is left out. -/
  exclusiveMinimum : Value := .bool false
  /-- Whether the greatest number itself is left out. -/
  exclusiveMaximum : Value := .bool false
  /-- What a number is a multiple of. -/
  multipleOf : Value := .null
  /-- Exactly one of these conforms. -/
  oneOf : Option (List ν) := none
  /-- At least one of these conforms. -/
  anyOf : Option (List ν) := none
  /-- All of these conform. -/
  allOf : Option (List ν) := none
  /-- This does not conform. -/
  notSchema : Option ν := none
  /-- How a named schema is selected. -/
  discriminator : Option Discriminator := none
  /-- The type of the records that a cast builds. -/
  targetType : TargetType := .absent
  /-- A title, of no effect. -/
  title : Value := .null
  /-- A description, of no effect. -/
  description : Value := .null
  /-- An example, of no effect on values. -/
  sample : Value := .null
  /-- A default, of no effect. -/
  default : Value := .null

/-- A schema node. -/
inductive Node
  /-- A reference to a named schema. -/
  | ref (name : String)
  /-- A schema. -/
  | schema (keywords : Keywords Node)

/-- A schema. -/
abbrev Schema := Keywords Node

instance : Inhabited Node := ⟨.ref ""⟩

namespace Keywords

variable {ν : Type}

/-- The declared properties, none if the keyword is absent. -/
def declared (s : Keywords ν) : List (String × ν) := s.properties.getD []

/-- Whether a property is declared. -/
def declares (s : Keywords ν) (key : Value) : Bool :=
  s.declared.any fun p => key.equal (.str p.1)

/-- The nodes of which exactly one conforms, none if the keyword is absent. -/
def oneOfList (s : Keywords ν) : List ν := s.oneOf.getD []

/-- The nodes of which at least one conforms, none if the keyword is absent. -/
def anyOfList (s : Keywords ν) : List ν := s.anyOf.getD []

/-- The nodes that all conform, none if the keyword is absent. -/
def allOfList (s : Keywords ν) : List ν := s.allOf.getD []

/-- Whether one of several alternatives has to be chosen. -/
def hasAlternatives (s : Keywords ν) : Bool := !s.oneOfList.isEmpty || !s.anyOfList.isEmpty

/-- Whether the schema is composed of others. -/
def isComposed (s : Keywords ν) : Bool := !s.allOfList.isEmpty || s.hasAlternatives

/-- The schema without its alternatives. -/
def withoutAlternatives (s : Keywords ν) : Keywords ν := { s with oneOf := none, anyOf := none }

end Keywords

/-- Named nodes, in order. -/
structure Registry where
  /-- The names with their nodes. -/
  entries : List (String × Node)

namespace Registry

/-- The node of a name. -/
def get? (r : Registry) (name : String) : Option Node := r.entries.lookup name

/-- What a node stands for: the node that a reference names, with the name, or the node itself.
A reference is followed once only. -/
def resolve? (r : Registry) : Node → Option (Node × Option String)
  | .ref name => (r.get? name).map fun n => (n, some name)
  | .schema s => some (.schema s, none)

/-- What is said of a name that has no node. -/
def notFoundMessage (name : String) : String := "Schema '" ++ name ++ "' not found in registry"

end Registry

end DataSchema
