import DataSchema.CommandLine.Word

set_option autoImplicit false

/-!
# Arguments of the command line

Reading a command line. The two positional arguments, an operation and its documents, are taken
from the words before, between and after the options; the documents are taken at once, and what is
left of the words has no meaning.

## Main definitions

* `DataSchema.Arguments` — what a command line asks for.
* `DataSchema.Arguments.ofWords` — reading a command line.
-/

namespace DataSchema

/-- The operations. -/
inductive Operation
  | validate
  | cast
  deriving DecidableEq, Repr

/-- The forms of a report. -/
inductive ReportFormat
  | human
  | json
  deriving DecidableEq, Repr

/-- What a command line asks for. -/
structure Arguments where
  /-- The operation. -/
  operation : Operation
  /-- The documents that are checked. -/
  documents : List String
  /-- The documents that define the schemas. -/
  schemas : List String
  /-- The name of the schema that is applied. -/
  schema : String
  /-- The form of the report. -/
  format : ReportFormat
  /-- Whether unknown keywords are refused. -/
  strict : Bool

/-- Why a command line does not ask for an operation. -/
inductive CommandLineStop
  /-- It asks for help. -/
  | help
  /-- It is not well formed. -/
  | usage (e : UsageError)

/-- What has been read of a command line. -/
structure Draft where
  /-- The operation. -/
  operation : Option Operation := none
  /-- The documents that are checked. -/
  documents : Option (List String) := none
  /-- The documents that define the schemas. -/
  schemas : Option (List String) := none
  /-- The name of the schema that is applied. -/
  schema : Option String := none
  /-- The form of the report. -/
  format : ReportFormat := .human
  /-- Whether unknown keywords are refused. -/
  strict : Bool := false
  /-- The words without meaning. -/
  extras : List String := []

/-- Reading a command line. -/
abbrev Drafting := Except CommandLineStop

namespace Drafting

/-- Fails with a usage error. -/
def fail {α : Type} (e : UsageError) : Drafting α := .error (.usage e)

/-- The operations by name. -/
def operations : List (String × Operation) := [("validate", .validate), ("cast", .cast)]

/-- The forms of reports by name. -/
def formats : List (String × ReportFormat) := [("human", .human), ("json", .json)]

/-- A choice by its name. -/
def choose {α : Type} (argument : String) (choices : List (String × α)) (value : String) :
    Drafting α :=
  match choices.lookup value with
  | some a => .ok a
  | none => fail (.badChoice argument value (choices.map Prod.fst))

/-- Arguments without the first two dashes that stand alone. -/
def withoutDashes (words : List String) : List String := words.erase "--"

/-! ## Positional arguments -/

/-- The words of a single argument: the separator on either side belongs to it. -/
def singleWords (ws : List CommandWord) : List CommandWord × List CommandWord :=
  let before := ws.takeWhile (· = .separator)
  let rest := ws.drop before.length
  match rest with
  | w :: rest =>
    if w.isArgument then
      let after := rest.takeWhile (· = .separator)
      (before ++ w :: after, rest.drop after.length)
    else ([], ws)
  | [] => ([], ws)

/-- The words of one or more arguments, the separator before and between them included. -/
def severalWords (ws : List CommandWord) : List CommandWord × List CommandWord :=
  let run := ws.takeWhile fun w => !w.isOption
  if run.any CommandWord.isArgument then (run, ws.drop run.length) else ([], ws)

/-- The texts of words that are no options. -/
def texts (ws : List CommandWord) : List String :=
  withoutDashes (ws.filterMap CommandWord.text?)

/-- Takes the operation from the words at the beginning, if it is missing and they are not
options. -/
def takeOperation (d : Draft) (ws : List CommandWord) : Drafting (Draft × List CommandWord) :=
  match d.operation, texts (singleWords ws).1 with
  | none, word :: _ => do
    let operation ← choose "command" operations word
    return ({ d with operation := some operation }, (singleWords ws).2)
  | _, _ => .ok (d, ws)

/-- Takes the documents from the words at the beginning, if they are missing, the operation is
known, and the words are not options. -/
def takeDocuments (d : Draft) (ws : List CommandWord) : Drafting (Draft × List CommandWord) :=
  if d.operation.isNone || d.documents.isSome || (severalWords ws).1.isEmpty then .ok (d, ws)
  else .ok ({ d with documents := some (texts (severalWords ws).1) }, (severalWords ws).2)

/-- Takes the positional arguments that stand at the beginning. -/
def takePositionals (d : Draft) (ws : List CommandWord) : Drafting (Draft × List CommandWord) := do
  let (d, ws) ← takeOperation d ws
  takeDocuments d ws

/-! ## Options -/

/-- A draft with an option set to its arguments. -/
def setOption (d : Draft) (o : CommandOption) (values : List String) : Drafting Draft :=
  match o, values with
  | .help, _ => .error .help
  | .strict, _ => .ok { d with strict := true }
  | .schemas, values => .ok { d with schemas := some (withoutDashes values) }
  | .schema, value :: _ => .ok { d with schema := some value }
  | .format, value :: _ => do
    let format ← choose o.name formats value
    return { d with format }
  | o, [] => fail (.lacksArgument o)

/-- Letters that are written together after the option for help. Each of them asks for help again
or for nothing that is known; what looks like an argument is refused. -/
def takeLetters (o : CommandOption) : List Char → Drafting Draft
  | '-' :: cs => fail (.excessArgument o (String.ofList ('-' :: cs)))
  | 'h' :: '=' :: cs => fail (.excessArgument o (String.ofList cs))
  | 'h' :: cs => takeLetters o cs
  | _ => .error .help

/-- An option with an argument attached to it. -/
def takeAttached (d : Draft) (o : CommandOption) (glued : Bool) (value : String) :
    Drafting Draft :=
  if o.arity ≠ .zero then setOption d o [value]
  else if glued && value != "" then takeLetters o value.toList
  else fail (.excessArgument o value)

/-- An option with its arguments among the words after it. -/
def takeDetached (d : Draft) (o : CommandOption) (ws : List CommandWord) :
    Drafting (Draft × List CommandWord) := do
  let most := match o.arity with
    | .zero => 0
    | .one => 1
    | .many => ws.length
  let values := (ws.take most).takeWhile CommandWord.isArgument
  if values.isEmpty && o.arity ≠ .zero then fail (.lacksArgument o)
  let d ← setOption d o (values.filterMap CommandWord.text?)
  return (d, ws.drop values.length)

/-- Takes the option that a word stands for; other words have no meaning. -/
def takeOption (d : Draft) (w : CommandWord) (ws : List CommandWord) :
    Drafting (Draft × List CommandWord) := do
  match w with
  | .option o _ none => takeDetached d o ws
  | .option o glued (some value) => return (← takeAttached d o glued value, ws)
  | .unknownOption word => return ({ d with extras := d.extras ++ [word] }, ws)
  | w => return ({ d with extras := d.extras ++ w.text?.toList }, ws)

/-! ## Command lines -/

/-- Takes words up to the last option. Positional arguments are taken as often as there are some;
words that are neither have no meaning. -/
def takeWords : Nat → Draft → List CommandWord → Drafting (Draft × List CommandWord)
  | 0, d, ws => .ok (d, ws)
  | fuel + 1, d, ws => do
    if !ws.any CommandWord.isOption then return (d, ws)
    let (d, rest) ← takePositionals d ws
    if rest.length < ws.length then takeWords fuel d rest
    else match rest with
      | [] => return (d, [])
      | w :: rest =>
        let (d, rest) ← takeOption d w rest
        takeWords fuel d rest

/-- The names of the arguments that are missing. -/
def missing (d : Draft) : List String :=
  (if d.operation.isNone then ["command"] else []) ++
    (if d.documents.isNone then ["documents"] else []) ++
    (if d.schemas.isNone then [CommandOption.schemas.name] else []) ++
    (if d.schema.isNone then [CommandOption.schema.name] else [])

/-- A complete draft as arguments. -/
def finish (d : Draft) (rest : List CommandWord) : Drafting Arguments :=
  match d.operation, d.documents, d.schemas, d.schema with
  | some operation, some documents, some schemas, some schema =>
    let extras := d.extras ++ rest.filterMap CommandWord.text?
    if extras.isEmpty then
      .ok ⟨operation, documents, schemas, schema, d.format, d.strict⟩
    else fail (.unrecognized extras)
  | _, _, _, _ => fail (.missing (missing d))

end Drafting

/-- What a command line asks for. Each step takes at least one word. -/
def Arguments.ofWords (words : List String) : Drafting Arguments := do
  let ws ← (CommandWord.ofWords words).mapError CommandLineStop.usage
  let (d, rest) ← Drafting.takeWords (ws.length + 1) {} ws
  let (d, rest) ← Drafting.takePositionals d rest
  Drafting.finish d rest

end DataSchema
