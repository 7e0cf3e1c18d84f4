import DataSchema.Pattern.Basic
import DataSchema.Pattern.Flaw
import DataSchema.Number.Numeral
import DataSchema.Text.WordCharacter

set_option autoImplicit false

/-!
# Reading patterns

Patterns are read from left to right, one token at a time, with one token of look-ahead: a
character, or a backslash with the character after it. What a group or an option means further
right is kept in the state of the reader.

## Main definitions

* `DataSchema.PatternReader` — reading with state and faults.
* `DataSchema.CompiledPattern` — a pattern that has been read, with its options.
* `DataSchema.CompiledPattern.ofText` — reads a text as a pattern.
-/

namespace DataSchema

/-- A token of a pattern: a character, or a backslash and the character after it. -/
abbrev PatternToken := List Char

/-- What a reader of patterns knows. -/
structure PatternReaderState where
  /-- The token that comes next. -/
  next : Option PatternToken
  /-- The characters after that token. -/
  rest : List Char
  /-- The number of characters up to and including that token. -/
  index : Nat
  /-- The options of the whole pattern. -/
  options : PatternOptions
  /-- The numbers of the named groups. -/
  names : List (String × Nat)
  /-- For each group its lengths, once it is closed. -/
  groups : List (Option Widths)
  /-- Inside a look-behind, the number that the next group had before it. -/
  lookBehind : Option Nat
  /-- The groups that conditions ask for by number, with the place where each is first named. -/
  conditions : List (Nat × Nat)

/-- Reading patterns. -/
abbrev PatternReader := StateT PatternReaderState (Except PatternFault)

namespace PatternReader

/-! ## Tokens -/

/-- Moves on to the next token. A backslash at the end is a fault as soon as it comes next. -/
def advance : PatternReader Unit := do
  let s ← get
  match s.rest with
  | [] => set { s with next := none }
  | ['\\'] => throw (.malformed .trailingBackslash (some s.index))
  | '\\' :: c :: cs => set { s with next := some ['\\', c], rest := cs, index := s.index + 2 }
  | c :: cs => set { s with next := some [c], rest := cs, index := s.index + 1 }

/-- The token that comes next. -/
def peek : PatternReader (Option PatternToken) := do return (← get).next

/-- Takes the token that comes next. -/
def take : PatternReader (Option PatternToken) := do
  let this ← peek
  advance
  return this

/-- The index of the token that comes next. -/
def position : PatternReader Nat := do
  let s ← get
  return s.index - (s.next.getD []).length

/-- Stops with a flaw a number of characters before the next token. -/
def fail {α : Type} (flaw : PatternFlaw) (back : Nat) : PatternReader α := do
  throw (.malformed flaw (some ((← position) - back)))

/-- Stops with a flaw at a place. -/
def failAt {α : Type} (flaw : PatternFlaw) (place : Nat) : PatternReader α :=
  throw (.malformed flaw (some place))

/-- Takes a character if it comes next. -/
def accept (c : Char) : PatternReader Bool := do
  if (← peek) == some [c] then
    advance
    return true
  return false

/-- Takes at most a number of characters of a class. -/
def takeWhile (p : Char → Bool) : Nat → PatternReader (List Char)
  | 0 => return []
  | n + 1 => do
    match ← peek with
    | some [c] =>
      if p c then
        advance
        return c :: (← takeWhile p n)
      return []
    | _ => return []

/-- The number of characters that are left, with the next token. -/
def remaining : PatternReader Nat := do
  let s ← get
  return s.rest.length + (s.next.getD []).length

/-- Takes what stands before a terminator, and the terminator. -/
def takeUntil (terminator : Char) (what : String) (found : List Char) :
    Nat → PatternReader (List Char)
  | 0 => return found
  | n + 1 => do
    match ← take with
    | none =>
      if found.isEmpty then fail (.missingName what) 0
      else fail (.unterminatedName terminator) found.length
    | some token =>
      if token = [terminator] then
        if found.isEmpty then fail (.missingName what) 1 else return found
      else takeUntil terminator what (found ++ token) n

/-- Takes a name that is followed by a terminator. -/
def takeName (terminator : Char) (what : String) : PatternReader String := do
  return String.ofList (← takeUntil terminator what [] ((← remaining) + 1))

/-! ## Groups -/

/-- The number that the next group gets. -/
def nextGroup : PatternReader Nat := do return (← get).groups.length + 1

/-- Whether a group is closed. -/
def isClosed (group : Nat) : PatternReader Bool := do
  return ((← get).groups[group - 1]?.bind id).isSome

/-- The lengths of a closed group. -/
def groupWidths (group : Nat) : PatternReader Widths := do
  return ((← get).groups[group - 1]?.bind id).getD ⟨0, 0⟩

/-- Refuses a reference, inside a look-behind, to a group that is open or stands in it too. -/
def checkLookBehind (group : Nat) : PatternReader Unit := do
  match (← get).lookBehind with
  | none => return
  | some before =>
    unless ← isClosed group do fail .openGroupReference 0
    if before ≤ group then fail .lookBehindReference 0

/-- Opens a group, under a name that no other group has. -/
def openGroup (name : Option String) : PatternReader Nat := do
  let number ← nextGroup
  match name with
  | none => modify fun s => { s with groups := s.groups ++ [none] }
  | some n =>
    match (← get).names.lookup n with
    | some old => fail (.redefinedGroup n number old) (n.length + 1)
    | none => modify fun s =>
        { s with groups := s.groups ++ [none], names := s.names ++ [(n, number)] }
  return number

/-- Closes a group. -/
def closeGroup (number : Nat) (body : List Pattern) : PatternReader Unit :=
  modify fun s => { s with groups := s.groups.set (number - 1) (some (Pattern.listWidths body)) }

/-- Whether a text can be the name of a group: a letter or low line, then word characters. -/
def isName (name : String) : Bool :=
  match name.toList with
  | [] => false
  | c :: cs => (isWordCharacter c && !isDecimalDigit c) && cs.all isWordCharacter

/-- Refuses what cannot be the name of a group. -/
def checkName (name : String) : PatternReader Unit := do
  unless isName name do fail (.badGroupName name) (name.length + 1)

/-! ## Escapes -/

/-- Whether a character is an octal digit. -/
def isOctal (c : Char) : Bool := '0' ≤ c && c ≤ '7'

/-- Whether a character is a hexadecimal digit. -/
def isHex (c : Char) : Bool := c.isDigit || ('a' ≤ c && c ≤ 'f') || ('A' ≤ c && c ≤ 'F')

/-- The number written by digits of a base. -/
def numberOf (base : Nat) (cs : List Char) : Nat :=
  cs.foldl (fun n c => n * base + (baseDigit? base c).getD 0) 0

/-- The code points with an escape letter of their own. -/
def controlEscape? : Char → Option Nat
  | 'a' => some 7
  | 'f' => some 12
  | 'n' => some 10
  | 'r' => some 13
  | 't' => some 9
  | 'v' => some 11
  | '\\' => some 92
  | _ => none

/-- The class of characters that an escape letter names. -/
def classEscape? : Char → Option SetItem
  | 'd' => some (.ofClass .digit false)
  | 'D' => some (.ofClass .digit true)
  | 's' => some (.ofClass .blank false)
  | 'S' => some (.ofClass .blank true)
  | 'w' => some (.ofClass .word false)
  | 'W' => some (.ofClass .word true)
  | _ => none

/-- The place that an escape letter names. -/
def anchorEscape? : Char → Option Anchor
  | 'A' => some .textStart
  | 'b' => some .wordBoundary
  | 'B' => some .insideWord
  | 'Z' => some .textEnd
  | _ => none

/-- An escape of a fixed number of hexadecimal digits. -/
def hexEscape (letter : Char) (count : Nat) : PatternReader Nat := do
  let ds ← takeWhile isHex count
  let escape := '\\' :: letter :: ds
  let value := numberOf 16 ds
  if ds.length ≠ count then fail (.incompleteEscape (String.ofList escape)) escape.length
  else if 0x10ffff < value then fail (.badEscape (String.ofList escape)) escape.length
  else return value

/-- An octal escape that has begun with some digits and takes at most some more. -/
def octalEscape (begun : List Char) (more : Nat) : PatternReader Nat := do
  let ds := begun ++ (← takeWhile isOctal more)
  let value := numberOf 8 ds
  if 0o377 < value then
    fail (.octalTooLarge (String.ofList ('\\' :: ds))) (ds.length + 1)
  else return value

/-- An escape that names a code point by number or name, in or outside a set. -/
def codeEscape? (c : Char) : PatternReader (Option Nat) := do
  match c with
  | 'x' => return some (← hexEscape 'x' 2)
  | 'u' => return some (← hexEscape 'u' 4)
  | 'U' => return some (← hexEscape 'U' 8)
  | 'N' =>
    unless ← accept '\x7b' do fail .missingBrace 0
    let name ← takeName '\x7d' "character name"
    fail (.unknownCharacterName name) (name.length + 4)
  | _ => return none

/-- Whether a character is an ASCII letter; such a letter has no escape unless it is given one. -/
def isAsciiLetter (c : Char) : Bool := c.isAlpha

/-- An escape inside a set. -/
def setEscape (c : Char) : PatternReader SetItem := do
  if c = 'b' then return .single 8
  if let some code := controlEscape? c then return .single code
  if let some item := classEscape? c then return item
  if let some code ← codeEscape? c then return .single code
  if isOctal c then return .single (← octalEscape [c] 2)
  if c.isDigit || isAsciiLetter c then fail (.badEscape (String.ofList ['\\', c])) 2
  return .single c.toNat

/-- A reference back to a group that is closed. -/
def reference (group length : Nat) : PatternReader Pattern := do
  if group < (← nextGroup) then
    unless ← isClosed group do fail .openGroupReference length
    checkLookBehind group
    return .backReference group (← groupWidths group)
  fail (.invalidReference group) (length - 1)

/-- An escape of a digit other than zero: three octal digits, or a reference of one or two. -/
def digitEscape (c : Char) : PatternReader Pattern := do
  match ← peek with
  | some [d] =>
    if d.isDigit then
      advance
      if isOctal c && isOctal d then
        if let some [e] ← peek then
          if isOctal e then return .character (← octalEscape [c, d] 1) false
      reference (numberOf 10 [c, d]) 3
    else reference (numberOf 10 [c]) 2
  | _ => reference (numberOf 10 [c]) 2

/-- An escape outside a set. -/
def escape (c : Char) : PatternReader Pattern := do
  if let some a := anchorEscape? c then return .anchor a
  if let some item := classEscape? c then return .set [item] false
  if let some code := controlEscape? c then return .character code false
  if let some code ← codeEscape? c then return .character code false
  if c = '0' then return .character (← octalEscape [c] 2) false
  if c.isDigit then digitEscape c
  else if isAsciiLetter c then fail (.badEscape (String.ofList ['\\', c])) 2
  else return .character c.toNat false

/-! ## Sets -/

/-- A member of a set from its token. -/
def setItem (token : PatternToken) : PatternReader SetItem :=
  match token with
  | ['\\', c] => setEscape c
  | [c] => return .single c.toNat
  | _ => return .single 0

/-- The members of a set up to its closing bracket; `start` is the place of the opening one. -/
def setItems (start : Nat) (found : List SetItem) : Nat → PatternReader (List SetItem)
  | 0 => return found
  | n + 1 => do
    let unterminated {α : Type} : PatternReader α := failAt .unterminatedSet start
    match ← take with
    | none => unterminated
    | some this =>
      if this = [']'] && !found.isEmpty then return found
      let low ← setItem this
      if ← accept '-' then
        match ← take with
        | none => unterminated
        | some [']'] => return found ++ [low, .single '-'.toNat]
        | some that =>
          let high ← setItem that
          let bad {α : Type} : PatternReader α :=
            fail (.badRange (String.ofList this) (String.ofList that))
              (this.length + 1 + that.length)
          match low, high with
          | .single a, .single b => if b < a then bad else setItems start (found ++ [.range a b]) n
          | _, _ => bad
      else setItems start (found ++ [low]) n

/-- A set after its opening bracket. -/
def readSet : PatternReader Pattern := do
  let start := (← position) - 1
  let negated ← accept '^'
  match ← setItems start [] ((← remaining) + 1) with
  | [.single c] => return .character c negated
  | items => return .set items negated

/-! ## Options -/

/-- The option that a letter stands for. -/
def option? : Char → Option PatternOptions
  | 'i' => some { ignoreCase := true }
  | 'm' => some { everyLine := true }
  | 's' => some { dotAll := true }
  | 'x' => some { verbose := true }
  | 'a' => some { ascii := true }
  | 'u' => some { unicode := true }
  | 't' => some { template := true }
  | _ => none

/-- Whether a token is an option letter. -/
def isOption (token : PatternToken) : Bool :=
  match token with
  | [c] => c = 'L' || (option? c).isSome
  | _ => false

/-- Whether a token is a letter. -/
def isLetter (token : PatternToken) : Bool :=
  match token with
  | [c] => isWordCharacter c && !isDecimalDigit c && c ≠ '_'
  | _ => false

/-- The options that are set, from the first letter on, and the character that ends them. -/
def optionsSet (letter : Char) (found : PatternOptions) :
    Nat → PatternReader (PatternOptions × Char)
  | 0 => return (found, ')')
  | n + 1 => do
    match option? letter with
    | none => fail .localeOption 0
    | some o =>
      let all := found.union o
      if (o.ascii || o.unicode) && all.ascii && all.unicode then fail .incompatibleOptions 0
      match ← take with
      | none => fail .missingOptionEnd 0
      | some token =>
        match token with
        | [')'] => return (all, ')')
        | ['-'] => return (all, '-')
        | [':'] => return (all, ':')
        | [c] =>
          if isOption token then optionsSet c all n
          else if isLetter token then fail .unknownOption 1
          else fail .missingOptionEnd 1
        | _ => fail .missingOptionEnd token.length

/-- The options that are cleared, from the first letter on, up to the colon. -/
def optionsCleared (letter : Char) (found : PatternOptions) : Nat → PatternReader PatternOptions
  | 0 => return found
  | n + 1 => do
    match option? letter with
    | none => fail .alphabetTurnedOff 0
    | some o =>
      if o.ascii || o.unicode then fail .alphabetTurnedOff 0
      let all := found.union o
      match ← take with
      | none => fail .missingColon 0
      | some token =>
        match token with
        | [':'] => return all
        | [c] =>
          if isOption token then optionsCleared c all n
          else if isLetter token then fail .unknownOption 1
          else fail .missingColon 1
        | _ => fail .missingColon token.length

/-- Options after `(?`: none when they are for the whole pattern, and otherwise those that are
set and those that are cleared in a group. -/
def readOptions (c : Char) : PatternReader (Option (PatternOptions × PatternOptions)) := do
  let limit := (← remaining) + 1
  let (added, stop) ← if c = '-' then pure ({}, '-') else optionsSet c {} limit
  if stop = ')' then
    modify fun s => { s with options := s.options.union added }
    return none
  if added.template then fail .templateTurnedOn 1
  let removed ←
    if stop = '-' then do
      match ← take with
      | none => fail .missingOption 0
      | some token =>
        match token with
        | [d] =>
          if isOption token then optionsCleared d {} limit
          else if isLetter token then fail .unknownOption 1
          else fail .missingOption 1
        | _ => fail .missingOption token.length
    else pure {}
  if removed.template then fail .templateTurnedOff 1
  if !(added.intersection removed).isEmpty then fail .optionOnAndOff 1
  return some (added, removed)

/-! ## Pieces -/

/-- The greatest number of rounds of a repetition, plus one. -/
def roundLimit : Nat := 4294967295

/-- The bounds of a repetition after its first character, or nothing if that character stands
for itself. -/
def bounds? (c : Char) : PatternReader (Option (Nat × Option Nat)) := do
  match c with
  | '?' => return some (0, some 1)
  | '*' => return some (0, none)
  | '+' => return some (1, none)
  | _ =>
    let here ← get
    let place ← position
    if (← peek) == some ['\x7d'] then return none
    let limit ← remaining
    let low ← takeWhile Char.isDigit limit
    let high ← if ← accept ',' then takeWhile Char.isDigit limit else pure low
    unless ← accept '\x7d' do
      set here
      return none
    let least := numberOf 10 low
    let most := if high.isEmpty then none else some (numberOf 10 high)
    if roundLimit ≤ least then throw .tooManyRounds
    match most with
    | some m =>
      if roundLimit ≤ m then throw .tooManyRounds
      if m < least then failAt .reversedRepeat place
      return some (least, most)
    | none => return some (least, most)

/-- A repetition of the piece before it, which stands first in `before`. -/
def repeatLast (before : List Pattern) (place : Nat) (bounds : Nat × Option Nat) :
    PatternReader (List Pattern) := do
  match before with
  | [] | .anchor _ :: _ => failAt .nothingToRepeat place
  | .repeated .. :: _ => failAt .multipleRepeat place
  | item :: others =>
    let body := match item with
      | .group none added removed body =>
        if added.isEmpty && removed.isEmpty then body else [item]
      | _ => [item]
    if ← accept '?' then return .repeated bounds.1 bounds.2 .lazy body :: others
    if ← accept '+' then return .repeated bounds.1 bounds.2 .possessive body :: others
    return .repeated bounds.1 bounds.2 .greedy body :: others

/-- Skips a comment inside parentheses; `start` is the place of the opening one. -/
def skipComment (start : Nat) : Nat → PatternReader Unit
  | 0 => return
  | n + 1 => do
    if (← peek).isNone then failAt .unterminatedComment start
    if (← take) == some [')'] then return
    skipComment start n

/-- Skips the rest of a line. -/
def skipLine : Nat → PatternReader Unit
  | 0 => return
  | n + 1 => do
    match ← take with
    | none | some ['\n'] => return
    | some _ => skipLine n

/-- Takes the parenthesis that closes a group; `start` is the place of the opening one. -/
def closeParenthesis (start : Nat) : PatternReader Unit := do
  unless ← accept ')' do failAt .unterminatedGroup start

/-- The group that a condition asks for. -/
def conditionGroup : PatternReader Nat := do
  let name ← takeName ')' "group name"
  let back := name.length + 1
  if isName name then
    match (← get).names.lookup name with
    | some number => return number
    | none => fail (.unknownGroupName name) back
  else
    match readInteger? 10 name with
    | some (.ofNat 0) => fail .badGroupNumber back
    | some (.ofNat number) =>
      let place := (← position) - back
      modify fun s =>
        if (s.conditions.lookup number).isSome then s
        else { s with conditions := s.conditions ++ [(number, place)] }
      return number
    | _ => fail (.badGroupName name) back

/-- Whether blanks in a pattern with comments stand for nothing. -/
def isVerboseBlank (c : Char) : Bool :=
  c = ' ' || c = '\t' || c = '\n' || c = '\r' || c.toNat = 11 || c.toNat = 12

/-- A piece with its group dissolved if the group does nothing but group. -/
def ungroup : Pattern → List Pattern
  | .group none added removed body =>
    if added.isEmpty && removed.isEmpty then body else [.group none added removed body]
  | p => [p]

mutual

/-- Lists of pieces with bars between them. `top` holds outside all parentheses. -/
def alternation (verbose top : Bool) : Nat → PatternReader (List Pattern)
  | 0 => return []
  | n + 1 => do
    match ← branches verbose top true n with
    | [branch] => return branch
    | bs => return [.alternatives bs]
termination_by structural n => n

/-- The lists of pieces of an alternation, from the first or a later one on. -/
def branches (verbose top first : Bool) : Nat → PatternReader (List (List Pattern))
  | 0 => return []
  | n + 1 => do
    let branch ← pieces verbose (top && first) [] n
    if ← accept '|' then
      let whole ← get
      let verbose := if top then whole.options.verbose else verbose
      return branch :: (← branches verbose top false n)
    return [branch]
termination_by structural n => n

/-- Pieces up to a bar, a closing parenthesis, or the end; those before are in `before`, last
first. `first` holds where options for the whole pattern may stand. -/
def pieces (verbose first : Bool) (before : List Pattern) : Nat → PatternReader (List Pattern)
  | 0 => return before.reverse
  | n + 1 => do
    match ← peek with
    | none | some ['|'] | some [')'] => return before.reverse.flatMap ungroup
    | some this =>
      advance
      match this with
      | ['\\', c] => pieces verbose first ((← escape c) :: before) n
      | [c] =>
        if verbose && isVerboseBlank c then pieces verbose first before n
        else if verbose && c = '#' then
          skipLine ((← remaining) + 1)
          pieces verbose first before n
        else if c = '[' then pieces verbose first ((← readSet) :: before) n
        else if c = '.' then pieces verbose first (.anyCharacter :: before) n
        else if c = '^' then pieces verbose first (.anchor .lineStart :: before) n
        else if c = '$' then pieces verbose first (.anchor .lineEnd :: before) n
        else if c = '*' || c = '+' || c = '?' || c = '\x7b' then
          let place := (← position) - 1
          match ← bounds? c with
          | none => pieces verbose first (.character c.toNat false :: before) n
          | some bounds => pieces verbose first (← repeatLast before place bounds) n
        else if c = '(' then
          let start := (← position) - 1
          if ← accept '?' then
            match ← extension verbose (first && before.isEmpty) start n with
            | some p => pieces verbose first (p :: before) n
            | none =>
              let whole ← get
              pieces (if first then whole.options.verbose else verbose) first before n
          else
            pieces verbose first ((← capture none verbose start n) :: before) n
        else pieces verbose first (.character c.toNat false :: before) n
      | _ => pieces verbose first before n
termination_by structural n => n

/-- A capturing group after its opening. -/
def capture (name : Option String) (verbose : Bool) (start : Nat) : Nat → PatternReader Pattern
  | 0 => return .anyCharacter
  | n + 1 => do
    let number ← openGroup name
    let body ← alternation verbose false n
    closeParenthesis start
    closeGroup number body
    return .group (some number) {} {} body
termination_by structural n => n

/-- What follows `(?`; nothing if it is a comment or sets options for the whole pattern, which
it may only where `leading` holds. -/
def extension (verbose leading : Bool) (start : Nat) : Nat → PatternReader (Option Pattern)
  | 0 => return none
  | n + 1 => do
    match ← take with
    | none => fail .unexpectedEnd 0
    | some ['P'] =>
      if ← accept '<' then
        let name ← takeName '>' "group name"
        checkName name
        return some (← capture (some name) verbose start n)
      else if ← accept '=' then
        let name ← takeName ')' "group name"
        checkName name
        match (← get).names.lookup name with
        | none => fail (.unknownGroupName name) (name.length + 1)
        | some number =>
          unless ← isClosed number do fail .openGroupReference (name.length + 1)
          checkLookBehind number
          return some (.backReference number (← groupWidths number))
      else
        match ← take with
        | none => fail .unexpectedEnd 0
        | some token =>
          fail (.unknownExtension (String.ofList ('P' :: token))) (token.length + 2)
    | some [':'] =>
      let body ← alternation verbose false n
      closeParenthesis start
      return some (.group none {} {} body)
    | some ['>'] =>
      let body ← alternation verbose false n
      closeParenthesis start
      return some (.atomic body)
    | some ['#'] =>
      skipComment start ((← remaining) + 1)
      return none
    | some ['='] => return some (← look true false verbose start n)
    | some ['!'] => return some (← look true true verbose start n)
    | some ['<'] =>
      match ← take with
      | none => fail .unexpectedEnd 0
      | some ['='] => return some (← lookBehind false verbose start n)
      | some ['!'] => return some (← lookBehind true verbose start n)
      | some token =>
        fail (.unknownExtension (String.ofList ('<' :: token))) (token.length + 2)
    | some ['('] =>
      let group ← conditionGroup
      checkLookBehind group
      let present ← pieces verbose false [] n
      let absent ←
        if ← accept '|' then
          let absent ← pieces verbose false [] n
          if (← peek) == some ['|'] then fail .tooManyBranches 0
          pure (some absent)
        else pure none
      closeParenthesis start
      return some (.conditional group present absent)
    | some token =>
      match token with
      | [c] =>
        if c = '-' || isOption token then
          match ← readOptions c with
          | none =>
            unless leading do failAt .misplacedOptions start
            return none
          | some (added, removed) =>
            let body ← alternation ((verbose || added.verbose) && !removed.verbose) false n
            closeParenthesis start
            return some (.group none added removed body)
        else fail (.unknownExtension (String.ofList token)) (token.length + 1)
      | _ => fail (.unknownExtension (String.ofList token)) (token.length + 1)
termination_by structural n => n

/-- A look-around after its opening. -/
def look (ahead negated verbose : Bool) (start : Nat) : Nat → PatternReader Pattern
  | 0 => return .anyCharacter
  | n + 1 => do
    let body ← alternation verbose false n
    closeParenthesis start
    return .look ahead negated body
termination_by structural n => n

/-- A look-behind after its opening. The outermost one bars references to groups inside it. -/
def lookBehind (negated verbose : Bool) (start : Nat) : Nat → PatternReader Pattern
  | 0 => return .anyCharacter
  | n + 1 => do
    let outer := (← get).lookBehind
    let number ← nextGroup
    if outer.isNone then modify fun s => { s with lookBehind := some number }
    let body ← alternation verbose false n
    if outer.isNone then modify fun s => { s with lookBehind := none }
    closeParenthesis start
    return .look false negated body
termination_by structural n => n

end

end PatternReader

/-! ## Whole patterns -/

namespace Pattern

mutual

/-- Refuses a look-behind of variable length, and repetition in a template. -/
def check (template : Bool) : Pattern → Except PatternFault Unit
  | character .. | anyCharacter | set .. | anchor _ | backReference .. => .ok ()
  | group _ _ _ body | atomic body => checkList template body
  | repeated _ _ kind body =>
    if template then
      .error (.malformed (.templateRepeat
        (match kind with
          | .greedy => "MAX_REPEAT"
          | .lazy => "MIN_REPEAT"
          | .possessive => "POSSESSIVE_REPEAT")) none)
    else checkList template body
  | alternatives bs => checkBranches template bs
  | look ahead _ body =>
    let w := listWidths body
    if !ahead && w.low ≠ w.high then .error (.malformed .variableLookBehind none)
    else checkList template body
  | conditional _ present none => checkList template present
  | conditional _ present (some absent) => do
    checkList template present
    checkList template absent

/-- Checks pieces in order. -/
def checkList (template : Bool) : List Pattern → Except PatternFault Unit
  | [] => .ok ()
  | p :: ps => do
    check template p
    checkList template ps

/-- Checks lists of pieces in order. -/
def checkBranches (template : Bool) : List (List Pattern) → Except PatternFault Unit
  | [] => .ok ()
  | b :: bs => do
    checkList template b
    checkBranches template bs

end

end Pattern

/-- A pattern that has been read. -/
structure CompiledPattern where
  /-- Its pieces. -/
  pieces : List Pattern
  /-- The options of the whole pattern. -/
  options : PatternOptions

namespace CompiledPattern

/-- Reads a whole text as a pattern. -/
def reader : PatternReader CompiledPattern := do
  PatternReader.advance
  -- every token takes at most five steps down
  let ps ← PatternReader.alternation false true (6 * ((← PatternReader.remaining) + 2))
  let s ← get
  if s.options.ascii && s.options.unicode then throw .conflictingOptions
  if s.next.isSome then PatternReader.fail .unbalancedParenthesis 0
  for (group, place) in s.conditions do
    if s.groups.length < group then PatternReader.failAt (.invalidReference group) place
  Pattern.checkList s.options.template ps
  return ⟨ps, s.options⟩

/-- Reads a text as a pattern. -/
def ofText (s : String) : Except PatternFault CompiledPattern :=
  (reader.run ⟨none, s.toList, 0, {}, [], [], none, []⟩).map Prod.fst

end CompiledPattern

end DataSchema
