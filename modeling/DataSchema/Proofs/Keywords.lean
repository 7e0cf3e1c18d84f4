import DataSchema.Proofs.Outcome

set_option autoImplicit false

/-!
# Checks of keywords in parts

The checks of keywords that choose between several ways to go on, rewritten as a row of parts of
which each has a name. Later proofs take these equations in place of the definitions.

## Main definitions

* `DataSchema.Validation.patternMissing`, `DataSchema.Validation.textIssues`,
  `DataSchema.Validation.numberIssues`, `DataSchema.Validation.boundIssues` — the parts.

## Main results

* `DataSchema.Validation.checkText_eq`, `DataSchema.Validation.checkBound_eq`,
  `DataSchema.Validation.checkFormatKeyword_eq`, `DataSchema.Validation.checkScalar_eq` — the
  checks as rows of parts.
-/

namespace DataSchema

namespace Validation

/-- Whether a text lacks the pattern of a keyword, if there is one. -/
def patternMissing (pattern : Value) (text : String) : Except Fault Bool :=
  if pattern.isNull then .ok false else (patternOccurs pattern text).map not

/-- The check of a text: its length from both sides, and its pattern. -/
lemma checkText_eq (s : Schema) (text : String) (path : Path) :
    checkText s text path = (do
      let short ← below text.length s.minLength
      let long ← above text.length s.maxLength
      let missing ← patternMissing s.pattern text
      return issueIf short
          (violation ("String is shorter than " ++ s.minLength.text ++ " characters") path) ++
        issueIf long
          (violation ("String is longer than " ++ s.maxLength.text ++ " characters") path) ++
        issueIf missing
          (violation ("String does not match pattern '" ++ s.pattern.text ++ "'") path)) := by
  unfold checkText patternMissing
  cases s.pattern.isNull <;> rfl

/-- The issues of a number with a bound, once the bound is known. -/
def boundIssues (n b : Number) (v bound exclusive : Value)
    (strictly weakly : Number → Number → Bool) (excludedWords includedWords : String)
    (path : Path) : List Issue :=
  let message (words : String) : Issue :=
    violation ("Value " ++ v.text ++ " must be " ++ words ++ " " ++ bound.text) path
  if exclusive.isTruthy && weakly n b then [message excludedWords]
  else issueIf (strictly n b) (message includedWords)

/-- The check of a bound: the bound as a number, and then the issues. -/
lemma checkBound_eq (n : Number) (v bound exclusive : Value)
    (strictly weakly : Number → Number → Bool) (excludedWords includedWords : String)
    (path : Path) :
    checkBound n v bound exclusive strictly weakly excludedWords includedWords path =
      if bound.isNull then .ok []
      else (keywordNumber bound).map fun b =>
        boundIssues n b v bound exclusive strictly weakly excludedWords includedWords path := by
  unfold checkBound boundIssues
  cases bound.isNull with
  | true => rfl
  | false =>
    cases keywordNumber bound with
    | error f => rfl
    | ok b =>
      simp only [Bool.false_eq_true, if_false, bind, Except.bind, Except.map, pure_eq_ok]
      split <;> rfl

/-- The issue of a format that is not met. -/
def formatIssues (path : Path) (reason? : Option String) : List Issue :=
  match reason? with
  | some reason => [⟨.invalidFormat, reason, path⟩]
  | none => []

/-- The check of the format keyword gives the reason that the format gives. -/
lemma checkFormatKeyword_eq (s : Schema) (v : Value) (path : Path) :
    checkFormatKeyword s v path = (checkFormat v s.format).map (formatIssues path) := by
  unfold checkFormatKeyword formatIssues
  rcases checkFormat v s.format with f | _ | reason <;> rfl

/-- The issues of a value as a text. -/
def textIssues (s : Schema) (v : Value) (path : Path) : Check :=
  match v with
  | .str text => checkText s text path
  | _ => .ok []

/-- The issues of a value as a number. -/
def numberIssues (s : Schema) (v : Value) (path : Path) : Check :=
  match v.number? with
  | some n => checkNumber s n v path
  | none => .ok []

/-- The check of a value as a text, as a number, and by the format. -/
lemma checkScalar_eq (s : Schema) (v : Value) (path : Path) :
    checkScalar s v path = (do
      let text ← textIssues s v path
      let number ← numberIssues s v path
      let format ← checkFormatKeyword s v path
      return text ++ number ++ format) := by
  unfold checkScalar textIssues numberIssues
  cases v <;> rfl

end Validation

end DataSchema
