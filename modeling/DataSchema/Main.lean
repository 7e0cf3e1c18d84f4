import DataSchema.CommandLine.Run

set_option autoImplicit false

/-!
# The program

Reads the settings from the environment and the documents from files, runs the command line, and
writes what it has to say.

## Main definitions

* `main` — the program.
-/

namespace DataSchema

/-- The values of the environment variables of the library. -/
def readEnvironment : IO (String → Option String) := do
  let names := ["SCHEMACAST_MAX_DEPTH", "SCHEMACAST_LOG_LEVEL", "SCHEMACAST_PRINT_LEVEL",
    "SCHEMACAST_CACHE_ENABLED"]
  let values ← names.filterMapM fun name => do
    return (← IO.getEnv name).map fun value => (name, value)
  return fun name => values.lookup name

/-- The text of a file, if it can be read. -/
def readText? (file : String) : IO (Option String) := do
  try return some (← IO.FS.readFile file) catch _ => return none

/-- The files that a command line names. -/
def readDirectory (words : List String) : IO Directory := do
  match Arguments.ofWords words with
  | .error _ => return .empty
  | .ok a =>
    (a.schemas ++ a.documents).foldlM (fun d file => do
      match ← readText? file with
      | some text => return d.write (.ofText file) text
      | none => return d) .empty

/-- Writes text to a stream. -/
def emitWrite (w : Write) : IO Unit := do
  let stream ← match w.stream with
    | .out => IO.getStdout
    | .err => IO.getStderr
  stream.putStr w.text
  stream.flush

/-- Runs a command line, and gives its status. -/
def runProgram (words : List String) : IO UInt32 := do
  match EngineConfig.ofEnvironment? (← readEnvironment) with
  | none =>
    IO.eprintln "SCHEMACAST_MAX_DEPTH is not a whole number"
    return 1
  | some config =>
    let run := runCommand words config (← readDirectory words)
    run.writes.forM emitWrite
    match run.ending with
    | .ok status => return UInt32.ofNat status
    | .error fault =>
      IO.eprintln fault.message
      return 1

end DataSchema

/-- The program. -/
def main (words : List String) : IO UInt32 := DataSchema.runProgram words
