import DataSchema.Text.Quoted
import DataSchema.Value.Display

set_option autoImplicit false

/-!
# Usage of the command line

The options and arguments of the command line, and what can be wrong with them.

## Main definitions

* `DataSchema.CommandOption` — the options.
* `DataSchema.UsageError` — what can be wrong with a command line.
* `DataSchema.UsageError.message` — that in words.
-/

namespace DataSchema

/-- How many arguments an option takes. -/
inductive Arity
  /-- None. -/
  | zero
  /-- Exactly one. -/
  | one
  /-- One or more. -/
  | many
  deriving DecidableEq, Repr

/-- The options. -/
inductive CommandOption
  | help
  | schemas
  | schema
  | format
  | strict
  deriving DecidableEq, Repr

namespace CommandOption

/-- How an option is written. -/
def spellings : CommandOption → List String
  | help => ["-h", "--help"]
  | schemas => ["--schemas"]
  | schema => ["--schema"]
  | format => ["--format"]
  | strict => ["--strict"]

/-- The name of an option in messages. -/
def name (o : CommandOption) : String := "/".intercalate o.spellings

/-- How many arguments an option takes. -/
def arity : CommandOption → Arity
  | help | strict => .zero
  | schema | format => .one
  | schemas => .many

/-- All options, in order. -/
def all : List CommandOption := [help, schemas, schema, format, strict]

/-- All spellings with their options. -/
def table : List (String × CommandOption) := all.flatMap fun o => o.spellings.map fun s => (s, o)

end CommandOption

/-- What can be wrong with a command line. -/
inductive UsageError
  /-- A shortened option stands for several. -/
  | ambiguous (word : String) (spellings : List String)
  /-- An argument is none of the choices. -/
  | badChoice (argument value : String) (choices : List String)
  /-- An option lacks its arguments. -/
  | lacksArgument (option : CommandOption)
  /-- An option without arguments is given one. -/
  | excessArgument (option : CommandOption) (value : String)
  /-- Arguments are missing. -/
  | missing (names : List String)
  /-- Words that have no meaning. -/
  | unrecognized (words : List String)
  deriving DecidableEq, Repr

namespace UsageError

/-- What is said about an argument. -/
def about (argument message : String) : String := "argument " ++ argument ++ ": " ++ message

/-- An error in words. -/
def message : UsageError → String
  | ambiguous word spellings =>
    "ambiguous option: " ++ word ++ " could match " ++ commaSeparated spellings
  | badChoice argument value choices =>
    about argument ("invalid choice: " ++ quoted value ++ " (choose from " ++
      commaSeparated (choices.map quoted) ++ ")")
  | lacksArgument option =>
    about option.name
      (if option.arity = .many then "expected at least one argument" else "expected one argument")
  | excessArgument option value => about option.name ("ignored explicit argument " ++ quoted value)
  | missing names => "the following arguments are required: " ++ commaSeparated names
  | unrecognized words => "unrecognized arguments: " ++ " ".intercalate words

end UsageError

/-- The name of the program. -/
def programName : String := "schemacast"

/-- How the program is called. -/
def usageLine : String :=
  "usage: " ++ programName ++ " [-h] --schemas SCHEMAS [SCHEMAS ...] --schema SCHEMA " ++
    "[--format \x7bhuman,json\x7d] [--strict] \x7bvalidate,cast\x7d documents [documents ...]\n"

/-- What the program does and takes. -/
def helpText : String :=
  usageLine ++ "\nValidate or cast YAML/JSON documents against named schemas\n\n" ++
    "positional arguments:\n" ++
    "  \x7bvalidate,cast\x7d       Operation to run\n" ++
    "  documents             YAML or JSON documents to check\n\n" ++
    "options:\n" ++
    "  -h, --help            show this help message and exit\n" ++
    "  --schemas SCHEMAS [SCHEMAS ...]\n" ++
    "                        Schema documents (OpenAPI components.schemas or name -> schema\n" ++
    "                        mappings)\n" ++
    "  --schema SCHEMA       Name of the schema to apply\n" ++
    "  --format \x7bhuman,json\x7d  Output format (default: human)\n" ++
    "  --strict              Reject unsupported schema keywords\n"

end DataSchema
