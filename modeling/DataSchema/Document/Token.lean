import DataSchema.Document.Cursor

set_option autoImplicit false

/-!
# Tokens of documents

The tokens that a document is made of. Besides what is written there are tokens for what the
layout says: where a block collection starts and ends, and where a key without a question mark
begins.

## Main definitions

* `DataSchema.Token` — the tokens.
* `DataSchema.Directive` — what a directive says.
-/

namespace DataSchema

/-- What a directive says. -/
inductive Directive
  /-- The version of the format, by its first number. -/
  | version (major : Nat)
  /-- What a handle of tags stands for. -/
  | handle (name expansion : String)
  /-- Anything else. -/
  | unknown
  deriving DecidableEq, Repr

/-- The tokens of a document. -/
inductive Token
  | directive (d : Directive)
  | documentStart
  | documentEnd
  | textEnd
  | blockSequenceStart
  | blockMappingStart
  | blockEnd
  | flowSequenceStart
  | flowSequenceEnd
  | flowMappingStart
  | flowMappingEnd
  | flowEntry
  | blockEntry
  | key
  | value
  | alias (name : String)
  | anchor (name : String)
  | tag (handle : Option String) (suffix : String)
  | scalar (text : String) (plain : Bool)
  deriving DecidableEq, Repr

end DataSchema
