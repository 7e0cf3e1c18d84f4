import DataSchema.Trace
import DataSchema.Schema.Basic

set_option autoImplicit false

/-!
# Definition errors

Why a document does not define schemas.

## Main definitions

* `DataSchema.DefinitionError` — the reasons.
* `DataSchema.DefinitionError.message` — a reason in words.
-/

namespace DataSchema

/-- Why a document does not define schemas. -/
inductive DefinitionError
  /-- A schema is no mapping. -/
  | notMapping (location className : String)
  /-- A reference is not a text, or empty. -/
  | badReference (location : String)
  /-- A type is not one of the known ones. -/
  | unknownType (type location : String)
  /-- The allowed values are no list. -/
  | enumNotList (location : String)
  /-- A pattern is not a pattern. -/
  | badPattern (location reason : String)
  /-- The properties are no mapping. -/
  | propertiesNotMapping (location : String)
  /-- The required names are no list of texts. -/
  | requiredNotNames (location : String)
  /-- A composition is no list, or empty. -/
  | emptyComposition (location : String)
  /-- A discriminator names no property. -/
  | badDiscriminator (location : String)
  /-- The tags of a discriminator are no mapping. -/
  | tagsNotMapping (location : String)
  /-- A schema has keywords that are not supported. -/
  | unsupportedKeywords (keys : List Value) (location : String)
  /-- Schemas are nested further than the value that they are read from. -/
  | tooNested (location : String)
  /-- A collection of schemas is no mapping. -/
  | collectionNotMapping (location : String)
  /-- The name of a schema is not a text, or empty. -/
  | badName (name : Value)
  /-- An entry of a registry is no schema. -/
  | notNode (name className : String)
  /-- A document does not exist. -/
  | documentNotFound (path : String)
  /-- A document cannot be read. -/
  | documentUnreadable (path reason : String)
  /-- A document is no mapping. -/
  | documentNotMapping (source : String)
  /-- The schemas section of a document is no mapping. -/
  | sectionNotMapping (source : String)
  /-- Two documents define a schema of the same name. -/
  | duplicateSchema (name new existing : String)

/-- The known types as a literal list. -/
def knownTypesLiteral : String :=
  (Value.tuple (TypeName.known.map fun t => .str t.text)).literal

/-- A reason in words. -/
def DefinitionError.message : DefinitionError → String
  | notMapping location className =>
    "Schema at " ++ location ++ " must be a mapping, got " ++ className
  | badReference location => "'$ref' at " ++ location ++ " must be a non-empty string"
  | unknownType type location =>
    "Invalid type '" ++ type ++ "' at " ++ location ++ ". Valid types: " ++ knownTypesLiteral
  | enumNotList location => "'enum' at " ++ location ++ " must be a list"
  | badPattern location reason => "Invalid 'pattern' at " ++ location ++ ": " ++ reason
  | propertiesNotMapping location => "'properties' at " ++ location ++ " must be a mapping"
  | requiredNotNames location => "'required' at " ++ location ++ " must be a list of strings"
  | emptyComposition location => "Composition at " ++ location ++ " must be a non-empty list"
  | badDiscriminator location =>
    "'discriminator' at " ++ location ++ " must have a string 'propertyName'"
  | tagsNotMapping location => "'discriminator.mapping' at " ++ location ++ " must be a mapping"
  | unsupportedKeywords keys location => unsupportedMessage keys location
  | tooNested location => "Schema at " ++ location ++ " is nested too deeply"
  | collectionNotMapping location => "Schema collection at " ++ location ++ " must be a mapping"
  | badName name => "Schema names must be non-empty strings, got: " ++ name.literal
  | notNode name className =>
    "Registry entry '" ++ name ++ "' must be a Schema or Reference, got " ++ className
  | documentNotFound path => "Schema document not found: " ++ path
  | documentUnreadable path reason => "Error parsing schema document " ++ path ++ ": " ++ reason
  | documentNotMapping source => "Schema document " ++ source ++ " must be a mapping"
  | sectionNotMapping source => "'components.schemas' in " ++ source ++ " must be a mapping"
  | duplicateSchema name new existing =>
    "Duplicate schema '" ++ name ++ "' found:\n  New: " ++ new ++ "\n  Existing: " ++ existing

end DataSchema
