import DataSchema.Logging.Level

set_option autoImplicit false

/-!
# Routing of records

Loggers form a tree by their dotted names. A record is handed from its logger upwards, to the
handlers of each logger on the way, until a logger that does not pass records on. Configuring a
logger gives it two handlers, which split its records between the two output streams by level.

## Main definitions

* `DataSchema.Logger`, `DataSchema.Loggers` — loggers with their handlers, by name.
* `DataSchema.Loggers.configure` — sets a logger up to split its records.
* `DataSchema.Loggers.writes` — where a record is written.
-/

namespace DataSchema

/-- The output streams. -/
inductive OutputStream
  | out
  | err
  deriving DecidableEq, Repr

/-- What writes records to a stream: those from a level on, and possibly only those below
another. -/
structure Handler where
  /-- The stream. -/
  stream : OutputStream
  /-- The level from which records are written. -/
  level : Int
  /-- The level below which records are written, if there is one. -/
  below : Option Int
  deriving DecidableEq, Repr

/-- Whether a handler writes records of a level. -/
def Handler.accepts (h : Handler) (level : Int) : Bool :=
  decide (h.level ≤ level) && match h.below with
    | some limit => decide (level < limit)
    | none => true

/-- A logger: the level from which its records count, zero leaving that to the loggers above. -/
structure Logger where
  /-- The level from which records count. -/
  level : Int
  /-- Whether records are passed on to the loggers above. -/
  propagates : Bool
  /-- What writes the records. -/
  handlers : List Handler
  deriving DecidableEq, Repr

namespace Logger

/-- A logger that has not been set up. -/
def unset : Logger := ⟨0, true, []⟩

/-- The least level at which the error stream can begin. -/
def errorThreshold (stderrLevel : Int) : Int := max stderrLevel Level.debug

/-- A logger that writes records below a level to the output stream, and the others to the error
stream, and passes nothing on. -/
def splitting (level stderrLevel : Int) : Logger where
  level := level
  propagates := false
  handlers := [⟨.out, Level.debug, some (errorThreshold stderrLevel)⟩,
    ⟨.err, errorThreshold stderrLevel, none⟩]

end Logger

/-- The loggers that have been set up, by name. -/
structure Loggers where
  /-- Names and loggers. -/
  entries : List (String × Logger)

namespace Loggers

/-- The name of the topmost logger. -/
def topmost : String := "root"

/-- The name that a logger goes by. The topmost one may be left without a name. -/
def fullName (name : String) : String := if name = "" then topmost else name

/-- No logger has been set up. -/
def empty : Loggers := ⟨[]⟩

/-- The logger of a name. The topmost one counts warnings from the start. -/
def get (ls : Loggers) (name : String) : Logger :=
  match ls.entries.lookup (fullName name) with
  | some l => l
  | none =>
    if fullName name = topmost then { Logger.unset with level := Level.warning } else Logger.unset

/-- Whether a logger has been set up. -/
def isConfigured (ls : Loggers) (name : String) : Bool :=
  (ls.entries.lookup (fullName name)).isSome

/-- Sets a logger up to split its records; what it was before is replaced. -/
def configure (ls : Loggers) (name : String) (level stderrLevel : Int) : Loggers :=
  ⟨(fullName name, Logger.splitting level stderrLevel) ::
    ls.entries.filter (·.1 != fullName name)⟩

/-- The loggers above a logger that have been set up, from below and without the topmost one, given
the reversed characters of its name up to some place. They are named by what stands before a dot; a
logger says itself what is above it, and where there is none the character before the dot is passed
over. -/
def loggersAbove (ls : Loggers) : List Char → List String
  | [] => []
  | '.' :: c :: cs =>
    let above := String.ofList (c :: cs).reverse
    if above != topmost && ls.isConfigured above then above :: loggersAbove ls (c :: cs)
    else loggersAbove ls cs
  | _ :: cs => loggersAbove ls cs

/-- A logger and those above it that have been set up, from below, up to the topmost one. -/
def chain (ls : Loggers) (name : String) : List String :=
  if fullName name = topmost then [topmost]
  else name :: ls.loggersAbove name.toList.reverse ++ [topmost]

/-- The level from which the records of a logger count: its own, or the nearest above that is not
zero. -/
def effectiveLevel (ls : Loggers) (name : String) : Int :=
  (((ls.chain name).map fun n => (ls.get n).level).find? (· ≠ 0)).getD 0

/-- Whether records of a level count for a logger. -/
def isEnabled (ls : Loggers) (name : String) (level : Int) : Bool :=
  decide (ls.effectiveLevel name ≤ level)

/-- The writes of a record on its way up: each with the logger whose handler writes it. -/
def writesAlong (ls : Loggers) (level : Int) : List String → List (String × OutputStream)
  | [] => []
  | n :: ns =>
    let here := ((ls.get n).handlers.filter (·.accepts level)).map fun h => (n, h.stream)
    here ++ if (ls.get n).propagates then writesAlong ls level ns else []

/-- Where a record of a logger is written. -/
def writes (ls : Loggers) (name : String) (level : Int) : List (String × OutputStream) :=
  if ls.isEnabled name level then ls.writesAlong level (ls.chain name) else []

end Loggers

/-- A record as a line of text. -/
def recordLine (logger : String) (level : Int) (message : String) : String :=
  Loggers.fullName logger ++ " - " ++ Level.name level ++ " - " ++ message

end DataSchema
