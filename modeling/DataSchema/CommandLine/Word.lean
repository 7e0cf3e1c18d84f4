import DataSchema.CommandLine.Usage
import DataSchema.Text.DecimalDigit

set_option autoImplicit false

/-!
# Words of the command line

Each word of a command line is an option, possibly with an argument attached to it, or an
argument. An option can be shortened as long as it is clear which one is meant. After two dashes
that stand alone, every word is an argument.

## Main definitions

* `DataSchema.CommandWord` — the kinds of words.
* `DataSchema.CommandWord.ofWords` — the words of a command line.
-/

namespace DataSchema

/-- The kinds of words. -/
inductive CommandWord
  /-- An option, with what is attached to it: after an equals sign, or glued to a single letter. -/
  | option (o : CommandOption) (glued : Bool) (attached : Option String)
  /-- Something that looks like an option and is none. -/
  | unknownOption (word : String)
  /-- The first two dashes that stand alone. -/
  | separator
  /-- Anything else. -/
  | argument (word : String)
  deriving DecidableEq, Repr

namespace CommandWord

/-- Whether a word looks like a negative number. -/
def isNegativeNumber : List Char → Bool
  | '-' :: cs =>
    let rest := cs.dropWhile isDecimalDigit
    let digits := !(cs.takeWhile isDecimalDigit).isEmpty
    match rest with
    | [] | ['\n'] => digits
    | '.' :: fraction =>
      !(fraction.takeWhile isDecimalDigit).isEmpty &&
        (fraction.dropWhile isDecimalDigit == [] || fraction.dropWhile isDecimalDigit == ['\n'])
    | _ => false
  | _ => false

/-- The text before the first equals sign, and the text after it if there is one. -/
def splitAtEquals (word : String) : String × Option String :=
  let cs := word.toList
  match cs.dropWhile (· ≠ '=') with
  | [] => (word, none)
  | _ :: after => (String.ofList (cs.takeWhile (· ≠ '=')), some (String.ofList after))

/-- A word with the option it spells and what is attached to it. -/
structure Spelling where
  /-- The full spelling. -/
  spelling : String
  /-- The option. -/
  option : CommandOption
  /-- Whether something is attached without an equals sign. -/
  glued : Bool
  /-- What is attached. -/
  attached : Option String

/-- The options that a shortened word with two dashes can stand for. -/
def longSpellings (word : String) : List Spelling :=
  let (start, attached) := splitAtEquals word
  (CommandOption.table.filter fun s => start.toList.isPrefixOf s.1.toList).map fun s =>
    ⟨s.1, s.2, false, attached⟩

/-- The options that a word with one dash can stand for: one letter with an argument attached, or
a shortened spelling. -/
def shortSpellings (word : String) : List Spelling :=
  CommandOption.table.filterMap fun s =>
    if s.1.toList = word.toList.take 2 then
      some ⟨s.1, s.2, true, some (String.ofList (word.toList.drop 2))⟩
    else if word.toList.isPrefixOf s.1.toList then some ⟨s.1, s.2, false, none⟩
    else none

/-- The options that a word can stand for when it is no full spelling. -/
def spellings (word : String) : List Spelling :=
  if word.toList.take 2 = ['-', '-'] then longSpellings word else shortSpellings word

/-- An option as a word. -/
def ofSpelling (s : Spelling) : CommandWord := .option s.option s.glued s.attached

/-- A word that no spelling begins with: an argument if it looks like a number or has a space in
it. -/
def ofUnknown (word : String) : CommandWord :=
  if isNegativeNumber word.toList || word.toList.contains ' ' then .argument word
  else .unknownOption word

/-- A word that starts with a dash. -/
def ofDashed (word : String) : Except UsageError CommandWord :=
  let (start, attached) := splitAtEquals word
  match CommandOption.table.lookup word, CommandOption.table.lookup start, attached with
  | some o, _, _ => .ok (.option o false none)
  | none, some o, some attached => .ok (.option o false (some attached))
  | _, _, _ =>
    match spellings word with
    | [] => .ok (ofUnknown word)
    | [s] => .ok (ofSpelling s)
    | several => .error (.ambiguous word (several.map Spelling.spelling))

/-- A word before the separator. -/
def ofWord (word : String) : Except UsageError CommandWord :=
  match word.toList with
  | '-' :: _ :: _ => ofDashed word
  | _ => .ok (.argument word)

/-- The words of a command line. -/
def ofWords : List String → Except UsageError (List CommandWord)
  | [] => .ok []
  | word :: words =>
    if word = "--" then .ok (.separator :: words.map .argument)
    else do
      let first ← ofWord word
      return first :: (← ofWords words)

/-- A word as it is written, if it is an argument or the separator. -/
def text? : CommandWord → Option String
  | argument word => some word
  | separator => some "--"
  | _ => none

/-- Whether a word stands for an option. -/
def isOption : CommandWord → Bool
  | option .. | unknownOption _ => true
  | _ => false

/-- Whether a word is an argument. -/
def isArgument : CommandWord → Bool
  | argument _ => true
  | _ => false

end CommandWord

end DataSchema
