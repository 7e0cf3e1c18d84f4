set_option autoImplicit false

/-!
# Levels of records

The severity of a log record is a whole number; five of them have names.

## Main definitions

* `DataSchema.Level.name` — how a level is shown.
* `DataSchema.Level.ofName?` — the level of a name.
-/

namespace DataSchema

namespace Level

/-- The level of details. -/
def debug : Int := 10

/-- The level of news. -/
def info : Int := 20

/-- The level of warnings. -/
def warning : Int := 30

/-- The level of errors. -/
def error : Int := 40

/-- The level of failures. -/
def critical : Int := 50

/-- The levels with a name, each with the name that it is shown by. -/
def shownNames : List (Int × String) :=
  [(50, "CRITICAL"), (40, "ERROR"), (30, "WARNING"), (20, "INFO"), (10, "DEBUG"), (0, "NOTSET")]

/-- How a level is shown. -/
def name (level : Int) : String :=
  (shownNames.lookup level).getD ("Level " ++ toString level)

/-- The names that a level can be asked for by, in capitals. -/
def askedNames : List (String × Int) :=
  [("CRITICAL", 50), ("FATAL", 50), ("ERROR", 40), ("WARNING", 30), ("WARN", 30), ("INFO", 20),
    ("DEBUG", 10), ("NOTSET", 0)]

/-- A letter as a capital. Two letters beyond ASCII have an ASCII capital: the dotless i and the
long s. -/
def capital (c : Char) : Char :=
  if c.toNat = 0x131 then 'I' else if c.toNat = 0x17f then 'S' else c.toUpper

/-- The level of a name in letters of any case. -/
def ofName? (name : String) : Option Int := askedNames.lookup (name.map capital)

end Level

end DataSchema
