import DataSchema.Pointer

set_option autoImplicit false

/-!
# Issues

What checking a value finds: a kind, a message, and the location it is about.

## Main definitions

* `DataSchema.IssueKind`, `DataSchema.Issue` — one finding.
* `DataSchema.Issue.lines` — findings as text, one on a line.
* `DataSchema.Issue.atPointer` — the findings at a location.
-/

namespace DataSchema

/-- The kinds of findings. -/
inductive IssueKind
  | schemaNotFound
  | wrongType
  | notInEnum
  | missingRequiredProperty
  | unexpectedProperty
  | noneMatched
  | ambiguousMatch
  | unexpectedMatch
  | castError
  | invalidFormat
  | constraintViolation
  deriving DecidableEq, Repr

/-- The name of a kind in reports. -/
def IssueKind.name : IssueKind → String
  | schemaNotFound => "SchemaNotFound"
  | wrongType => "WrongType"
  | notInEnum => "NotInEnum"
  | missingRequiredProperty => "MissingRequiredProperty"
  | unexpectedProperty => "UnexpectedProperty"
  | noneMatched => "NoneMatched"
  | ambiguousMatch => "AmbiguousMatch"
  | unexpectedMatch => "UnexpectedMatch"
  | castError => "CastError"
  | invalidFormat => "InvalidFormat"
  | constraintViolation => "ConstraintViolation"

/-- A finding about one location of a value. -/
structure Issue where
  /-- What kind of finding it is. -/
  kind : IssueKind
  /-- What was found, in words. -/
  message : String
  /-- The location it is about. -/
  path : Path

namespace Issue

/-- The location of a finding as a pointer. -/
def pointer (i : Issue) : String := i.path.pointer

/-- A finding as a line of text. -/
def text (i : Issue) : String := i.pointer ++ ": " ++ i.message

/-- Findings as text, one on a line, in order. -/
def lines (is : List Issue) : String := "\n".intercalate (is.map text)

/-- The findings whose location renders to a pointer. -/
def atPointer (is : List Issue) (pointer : String) : List Issue :=
  is.filter fun i => i.pointer == pointer

end Issue

end DataSchema
