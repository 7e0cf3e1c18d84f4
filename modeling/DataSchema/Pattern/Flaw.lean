import DataSchema.Text.Quoted

set_option autoImplicit false

/-!
# Flaws of patterns

Why a text is not a pattern, and how that is said.

## Main definitions

* `DataSchema.PatternFlaw` — what is wrong.
* `DataSchema.PatternFault` — why a text cannot be used as a pattern.
* `DataSchema.PatternFault.message` — that in words, with the place in the pattern.
-/

namespace DataSchema

/-- What is wrong with a pattern. -/
inductive PatternFlaw
  | trailingBackslash
  | badEscape (escape : String)
  | incompleteEscape (escape : String)
  | octalTooLarge (escape : String)
  | missingBrace
  | missingName (what : String)
  | unterminatedName (terminator : Char)
  | unknownCharacterName (name : String)
  | openGroupReference
  | lookBehindReference
  | invalidReference (group : Nat)
  | unterminatedSet
  | badRange (low high : String)
  | reversedRepeat
  | nothingToRepeat
  | multipleRepeat
  | templateRepeat (kind : String)
  | unexpectedEnd
  | unknownExtension (text : String)
  | unterminatedComment
  | unterminatedGroup
  | badGroupName (name : String)
  | unknownGroupName (name : String)
  | badGroupNumber
  | redefinedGroup (name : String) (new old : Nat)
  | tooManyBranches
  | misplacedOptions
  | localeOption
  | incompatibleOptions
  | unknownOption
  | missingOptionEnd
  | missingOption
  | missingColon
  | alphabetTurnedOff
  | templateTurnedOn
  | templateTurnedOff
  | optionOnAndOff
  | variableLookBehind
  | unbalancedParenthesis
  deriving DecidableEq, Repr

/-- A flaw in words. -/
def PatternFlaw.description : PatternFlaw → String
  | trailingBackslash => "bad escape (end of pattern)"
  | badEscape e => "bad escape " ++ e
  | incompleteEscape e => "incomplete escape " ++ e
  | octalTooLarge e => "octal escape value " ++ e ++ " outside of range 0-0o377"
  | missingBrace => "missing \x7b"
  | missingName what => "missing " ++ what
  | unterminatedName t => "missing " ++ String.singleton t ++ ", unterminated name"
  | unknownCharacterName n => "undefined character name " ++ quoted n
  | openGroupReference => "cannot refer to an open group"
  | lookBehindReference => "cannot refer to group defined in the same lookbehind subpattern"
  | invalidReference n => "invalid group reference " ++ toString n
  | unterminatedSet => "unterminated character set"
  | badRange low high => "bad character range " ++ low ++ "-" ++ high
  | reversedRepeat => "min repeat greater than max repeat"
  | nothingToRepeat => "nothing to repeat"
  | multipleRepeat => "multiple repeat"
  | templateRepeat kind => "internal: unsupported template operator " ++ kind
  | unexpectedEnd => "unexpected end of pattern"
  | unknownExtension t => "unknown extension ?" ++ t
  | unterminatedComment => "missing ), unterminated comment"
  | unterminatedGroup => "missing ), unterminated subpattern"
  | badGroupName n => "bad character in group name " ++ quoted n
  | unknownGroupName n => "unknown group name " ++ quoted n
  | badGroupNumber => "bad group number"
  | redefinedGroup n new old =>
    "redefinition of group name " ++ quoted n ++ " as group " ++ toString new ++
      "; was group " ++ toString old
  | tooManyBranches => "conditional backref with more than two branches"
  | misplacedOptions => "global flags not at the start of the expression"
  | localeOption => "bad inline flags: cannot use 'L' flag with a str pattern"
  | incompatibleOptions => "bad inline flags: flags 'a', 'u' and 'L' are incompatible"
  | unknownOption => "unknown flag"
  | missingOptionEnd => "missing -, : or )"
  | missingOption => "missing flag"
  | missingColon => "missing :"
  | alphabetTurnedOff => "bad inline flags: cannot turn off flags 'a', 'u' and 'L'"
  | templateTurnedOn => "bad inline flags: cannot turn on global flag"
  | templateTurnedOff => "bad inline flags: cannot turn off global flag"
  | optionOnAndOff => "bad inline flags: flag turned on and off"
  | variableLookBehind => "look-behind requires fixed-width pattern"
  | unbalancedParenthesis => "unbalanced parenthesis"

/-- Why a text cannot be used as a pattern. -/
inductive PatternFault
  /-- The text is not a pattern, and possibly where that shows. -/
  | malformed (flaw : PatternFlaw) (position : Option Nat)
  /-- A number of rounds is beyond what can be counted. -/
  | tooManyRounds
  /-- The options ask for both alphabets. -/
  | conflictingOptions
  deriving DecidableEq, Repr

/-- The place of an index in a text of several lines. -/
def linePlace (cs : List Char) (index : Nat) : String :=
  let before := cs.take index
  let line := before.count '\n' + 1
  let column := (before.reverse.takeWhile (· ≠ '\n')).length + 1
  " (line " ++ toString line ++ ", column " ++ toString column ++ ")"

/-- A fault in words: the flaw, and its place in the pattern if that is known. -/
def PatternFault.message (pattern : String) : PatternFault → String
  | malformed flaw none => flaw.description
  | malformed flaw (some index) =>
    let cs := pattern.toList
    flaw.description ++ " at position " ++ toString index ++
      if cs.contains '\n' then linePlace cs index else ""
  | tooManyRounds => "the repetition number is too large"
  | conflictingOptions => "ASCII and UNICODE flags are incompatible"

end DataSchema
