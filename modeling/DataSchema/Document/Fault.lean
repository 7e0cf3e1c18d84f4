set_option autoImplicit false

/-!
# Faults of documents

Why a text cannot be read as a document. A text that breaks the rules of the format has a *flaw*.
A text that keeps them can still hold something that does not exist: a date off the calendar, a
number without digits, a character beyond the last one.

## Main definitions

* `DataSchema.DocumentFlaw` — the ways to break the rules of the format.
* `DataSchema.DocumentFault` — the reasons for not reading a document.
-/

namespace DataSchema

/-- The ways to break the rules of the format. -/
inductive DocumentFlaw
  /-- A character that cannot stand in a document. -/
  | unprintable
  /-- A character that no token starts with. -/
  | noToken
  /-- A key without a colon after it. -/
  | keyWithoutColon
  /-- A dash where no sequence can start. -/
  | misplacedDash
  /-- A question mark where no key can start. -/
  | misplacedKey
  /-- A colon where no value can start. -/
  | misplacedColon
  /-- A closing bracket or brace that was not opened. -/
  | unopened
  /-- A directive that is not well formed. -/
  | badDirective
  /-- An anchor or alias that is not well formed. -/
  | badAnchor
  /-- A tag that is not well formed. -/
  | badTag
  /-- A block text whose first line is not well formed. -/
  | badBlockHeader
  /-- A quoted text that does not end. -/
  | unclosedQuote
  /-- An escape that is not known. -/
  | badEscape
  /-- A document marker inside a quoted text. -/
  | markerInQuotes
  /-- A version of the format that is not supported. -/
  | badVersion
  /-- A directive that is given twice. -/
  | repeatedDirective
  /-- A tag with a handle that is not declared. -/
  | unknownHandle
  /-- A token where another one is expected. -/
  | unexpectedToken
  /-- A text with several documents. -/
  | severalDocuments
  /-- An alias without an anchor before it. -/
  | unknownAlias
  /-- An anchor that is set twice. -/
  | repeatedAnchor
  /-- A node that contains itself. -/
  | cyclicNode
  /-- A tag without a meaning. -/
  | unknownTag
  /-- A tag on a node of another kind. -/
  | misplacedTag
  /-- A merge of something that is no mapping. -/
  | badMerge
  /-- A key that is a collection. -/
  | compositeKey
  deriving DecidableEq, Repr

/-- A flaw in words. -/
def DocumentFlaw.message : DocumentFlaw → String
  | unprintable => "special characters are not allowed"
  | noToken => "found a character that cannot start any token"
  | keyWithoutColon => "could not find expected ':' after a key"
  | misplacedDash => "sequence entries are not allowed here"
  | misplacedKey => "mapping keys are not allowed here"
  | misplacedColon => "mapping values are not allowed here"
  | unopened => "found a closing bracket that was not opened"
  | badDirective => "found a malformed directive"
  | badAnchor => "found a malformed anchor or alias"
  | badTag => "found a malformed tag"
  | badBlockHeader => "found a malformed block scalar header"
  | unclosedQuote => "found unexpected end of stream in a quoted scalar"
  | badEscape => "found unknown escape character"
  | markerInQuotes => "found unexpected document separator in a quoted scalar"
  | badVersion => "found incompatible YAML document"
  | repeatedDirective => "found duplicate directive"
  | unknownHandle => "found undefined tag handle"
  | unexpectedToken => "found an unexpected token"
  | severalDocuments => "expected a single document in the stream"
  | unknownAlias => "found undefined alias"
  | repeatedAnchor => "found duplicate anchor"
  | cyclicNode => "found unconstructable recursive node"
  | unknownTag => "could not determine a constructor for a tag"
  | misplacedTag => "found a node of another kind than its tag"
  | badMerge => "expected a mapping or list of mappings for merging"
  | compositeKey => "found unhashable key"

/-- Why a text cannot be read as a document. -/
inductive DocumentFault
  /-- It breaks a rule of the format. -/
  | malformed (flaw : DocumentFlaw)
  /-- An escape names a character beyond the last one. -/
  | noSuchCharacter
  /-- A date or a time does not exist. -/
  | noSuchDate
  /-- A text that is to be a number is none. -/
  | notNumber
  /-- A text that is to be a number is empty. -/
  | emptyNumber
  /-- A number is too large to be worked with. -/
  | numberTooLarge
  /-- A text that is to be a truth value is none. -/
  | notTruthValue
  /-- A text that is to be a timestamp is none. -/
  | notTimestamp
  deriving DecidableEq, Repr

/-- A fault in words. -/
def DocumentFault.message : DocumentFault → String
  | malformed flaw => flaw.message
  | noSuchCharacter => "an escape names a character that does not exist"
  | noSuchDate => "a date or a time does not exist"
  | notNumber => "a text that is to be a number is none"
  | emptyNumber => "a text that is to be a number is empty"
  | numberTooLarge => "a number is too large"
  | notTruthValue => "a text that is to be a truth value is none"
  | notTimestamp => "a text that is to be a timestamp is none"

end DataSchema
