import DataSchema.CommandLine.Arguments
import DataSchema.Report.Basic
import DataSchema.Logging.Record
import DataSchema.Store.SchemaFiles
import DataSchema.Casting

set_option autoImplicit false

/-!
# Running a command line

A command loads schemas, checks documents with one of them, and prints a report. It ends with
status zero if nothing was found, one if something was found, and two if the documents could not
be checked at all.

## Main definitions

* `DataSchema.CommandRun` — what a command writes, and how it ends.
* `DataSchema.runCommand` — running a command line.
-/

namespace DataSchema

/-- Why a command ends without a status. -/
inductive CommandFault
  /-- A document or a schema cannot be worked with. -/
  | fault (f : Fault)
  /-- A report cannot be written. -/
  | report (f : JsonFault)

/-- Why there is no status, in words. -/
def CommandFault.message : CommandFault → String
  | fault f => f.message
  | report f => f.message

/-- What a command writes, and how it ends. -/
structure CommandRun where
  /-- What is written, in order. -/
  writes : List Write
  /-- The status, or why there is none. -/
  ending : Except CommandFault Nat

namespace CommandRun

/-- The text written to a stream. -/
def text (r : CommandRun) (s : OutputStream) : String :=
  String.join ((r.writes.filter fun w => w.stream = s).map Write.text)

/-- The logger of the command line. -/
def logger : String := partLogger "cli"

/-- Ends with an error: status two, after a record of it. -/
def failed (ls : Loggers) (before : List Write) (message : String) : CommandRun :=
  ⟨before ++ ls.record logger Level.error message, .ok 2⟩

/-- Checks a document by a schema of a registry. -/
def check (a : Arguments) (registry : Registry) (limit : Int) (document : String) :
    Loads DocumentReport := do
  let v ← Store.load document
  let node := Node.ref a.schema
  match a.operation with
  | .validate =>
    let issues ← Loads.lift (.ofExcept ((validate registry node v limit).mapError .fault))
    return ⟨document, issues, none⟩
  | .cast =>
    match ← Loads.lift ((cast ⟨registry, .generic, limit⟩ node v).mapError .fault) with
    | .ok output => return ⟨document, [], some output⟩
    | .failed issues => return ⟨document, issues, none⟩

/-- Checks documents one after another, up to the first that cannot be checked: the events on the
way, and the reports or that document with the reason. -/
def checkAll (a : Arguments) (registry : Registry) (limit : Int) :
    List String → Store → List Event × Except (String × ReadError) (List DocumentReport)
  | [], _ => ([], .ok [])
  | document :: documents, s =>
    let (s, t) := check a registry limit document s
    match t.outcome with
    | .error e => (t.events, .error (document, e))
    | .ok report =>
      let (events, outcome) := checkAll a registry limit documents s
      (t.events ++ events, outcome.map (report :: ·))

/-- The message of an error that a document is given up for; none if it ends the command. -/
def documentError? : ReadError → Except Fault String
  | .definition e => .ok e.message
  | .fault (.tooDeep limit location) => .ok (tooDeepMessage limit location)
  | .fault f => .error f

/-- The last line of a report for people, if the documents were validated and nothing was found. -/
def closingLine (a : Arguments) (reports : List DocumentReport) : String :=
  if a.operation = .validate && reports.all DocumentReport.isClean then
    toString reports.length ++ " document(s) conform to " ++ a.schema ++ ".\n"
  else ""

/-- The text of a report. -/
def reportText (a : Arguments) (reports : List DocumentReport) : Except JsonFault String :=
  match a.format with
  | .json => DocumentReport.jsonText reports
  | .human => do return (← DocumentReport.humanText reports) ++ closingLine a reports

/-- Prints a report and ends with its status. -/
def reported (a : Arguments) (before : List Write) (reports : List DocumentReport) : CommandRun :=
  match reportText a reports with
  | .ok text =>
    ⟨before ++ [⟨.out, text⟩], .ok (if reports.all DocumentReport.isClean then 0 else 1)⟩
  | .error f => ⟨before, .error (.report f)⟩

/-- Checks the documents of a command with the schemas that are loaded. -/
def checked (a : Arguments) (config : EngineConfig) (ls : Loggers) (before : List Write)
    (registry : Registry) (s : Store) : CommandRun :=
  if (registry.get? a.schema).isNone then
    failed ls before ("Schema '" ++ a.schema ++ "' not found in " ++ commaSeparated a.schemas)
  else
    let (events, outcome) := checkAll a registry config.maxDepth a.documents s
    let writes := before ++ ls.records events
    match outcome with
    | .ok reports => reported a writes reports
    | .error (document, e) =>
      match documentError? e with
      | .ok message => failed ls writes (document ++ ": " ++ message)
      | .error f => ⟨writes, .error (.fault f)⟩

/-- Runs a command on the documents of a directory. -/
def ofArguments (a : Arguments) (config : EngineConfig) (directory : Directory) : CommandRun :=
  let ls := config.setLogging .empty
  let strictness := if a.strict then Strictness.strict else .lenient
  let (s, t) := Store.loadRegistry strictness a.schemas (.ofDirectory directory config.cacheEnabled)
  let writes := ls.records t.events
  match t.outcome with
  | .ok registry => checked a config ls writes registry s
  | .error (.definition e) => failed ls writes ("Failed to load schemas: " ++ e.message)
  | .error (.fault f) => ⟨writes, .error (.fault f)⟩

/-- A command line that asks for help, or is not well formed. -/
def stopped : CommandLineStop → CommandRun
  | .help => ⟨[⟨.out, helpText⟩], .ok 0⟩
  | .usage e => ⟨[⟨.err, usageLine ++ programName ++ ": error: " ++ e.message ++ "\n"⟩], .ok 2⟩

end CommandRun

/-- Runs a command line on the documents of a directory. -/
def runCommand (words : List String) (config : EngineConfig) (directory : Directory) : CommandRun :=
  match Arguments.ofWords words with
  | .ok a => .ofArguments a config directory
  | .error stop => .stopped stop

end DataSchema
