import DataSchema.Trace
import DataSchema.Config

set_option autoImplicit false

/-!
# Records of events

The records that the loggers of the library write for events and for errors.

## Main definitions

* `DataSchema.Event.logger` — the logger of an event.
* `DataSchema.Loggers.record` — what a record makes loggers write.
-/

namespace DataSchema

/-- The logger for a part of the library. -/
def partLogger (part : String) : String := libraryLogger ++ "." ++ part

/-- The logger of an event. -/
def Event.logger : Event → String
  | dispatched .. | matched .. => partLogger "caster"
  | unsupported .. => partLogger "parsing.schema_parser"
  | loading .. | loadingFromCache .. | loaded .. => partLogger "parsing.registry_loader"

/-- Text that is written to a stream. -/
structure Write where
  /-- The stream. -/
  stream : OutputStream
  /-- The text. -/
  text : String
  deriving DecidableEq, Repr

namespace Loggers

/-- What a record makes loggers write. -/
def record (ls : Loggers) (logger : String) (level : Int) (message : String) : List Write :=
  (ls.writes logger level).map fun w => ⟨w.2, recordLine logger level message ++ "\n"⟩

/-- What events make loggers write; they are details. -/
def records (ls : Loggers) (events : List Event) : List Write :=
  events.flatMap fun e => ls.record e.logger Level.debug e.message

end Loggers

end DataSchema
