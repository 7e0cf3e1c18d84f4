import DataSchema.Number.Numeral
import DataSchema.Logging.Routing

set_option autoImplicit false

/-!
# Configuration

The settings of the library, and reading them from environment variables.

## Main definitions

* `DataSchema.EngineConfig` — the settings.
* `DataSchema.EngineConfig.ofEnvironment?` — the settings that an environment asks for.
* `DataSchema.EngineConfig.setLogging` — sets the logger of the library up.
-/

namespace DataSchema

/-- The settings of the library. -/
structure EngineConfig where
  /-- The limit on nesting. -/
  maxDepth : Int := 64
  /-- The name of the level from which records count. -/
  logLevel : String := "WARNING"
  /-- The name of the level from which records go to the error stream. -/
  printLevel : String := "WARNING"
  /-- Whether documents are kept once they are read. -/
  cacheEnabled : Bool := true
  deriving DecidableEq, Repr

/-- The name of the logger of the library. -/
def libraryLogger : String := "schemacast"

namespace EngineConfig

/-- The settings that an environment asks for; none if the limit on nesting is not a number. -/
def ofEnvironment? (setting? : String → Option String) : Option EngineConfig :=
  let text (name default : String) : String := (setting? name).getD default
  (readInteger? 10 (text "SCHEMACAST_MAX_DEPTH" "64")).map fun maxDepth => {
    maxDepth
    logLevel := text "SCHEMACAST_LOG_LEVEL" "WARNING"
    printLevel := text "SCHEMACAST_PRINT_LEVEL" "WARNING"
    cacheEnabled := (text "SCHEMACAST_CACHE_ENABLED" "true").map Char.toLower == "true" }

/-- The level of a name; a name that is not known stands for warnings. -/
def levelOf (name : String) : Int := (Level.ofName? name).getD Level.warning

/-- Sets the logger of the library up as the settings say. -/
def setLogging (c : EngineConfig) (ls : Loggers) : Loggers :=
  ls.configure libraryLogger (levelOf c.logLevel) (levelOf c.printLevel)

end EngineConfig

end DataSchema
