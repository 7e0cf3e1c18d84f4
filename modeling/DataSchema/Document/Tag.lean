import DataSchema.Document.Moment

set_option autoImplicit false

/-!
# Tags

The tag of a node says what kind of value it stands for. A tag can be written down; the tag of a
plain text without one follows from the form of the text.

## Main definitions

* `DataSchema.Tag` — the tags with a meaning, and all others.
* `DataSchema.Tag.ofName` — the tag of a name.
* `DataSchema.Tag.ofPlain` — the tag of a plain text.
-/

namespace DataSchema

/-- What kind of value a node stands for. -/
inductive Tag
  | null
  | bool
  | int
  | float
  | str
  | timestamp
  | sequence
  | mapping
  /-- The key under which other mappings are merged into one. -/
  | merge
  /-- The key of a default value. -/
  | value
  /-- Nothing that is known. -/
  | other (name : String)
  deriving DecidableEq, Repr

namespace Tag

/-- What the names of the standard tags start with. -/
def standardScheme : String := "tag:yaml.org,2002:"

/-- The names of the standard tags. -/
def standardNames : List (String × Tag) := [
  ("null", null), ("bool", bool), ("int", int), ("float", float), ("str", str),
  ("timestamp", timestamp), ("seq", sequence), ("map", mapping), ("merge", merge),
  ("value", value)]

/-- The tag of a name. -/
def ofName (name : String) : Tag :=
  ((standardNames.find? fun n => standardScheme ++ n.1 == name).map Prod.snd).getD (other name)

/-! ## Plain texts -/

/-- Whether a character is a digit or a low line. -/
def isSpacedDigit (c : Char) : Bool := c.isDigit || c = '_'

/-- The characters after a sign, if there is one. -/
def afterSign : List Char → List Char
  | '+' :: cs | '-' :: cs => cs
  | cs => cs

/-- Whether some characters are not empty and all satisfy `p`. -/
def allOf (p : Char → Bool) (cs : List Char) : Bool := !cs.isEmpty && cs.all p

/-- What is left of a number after its parts in base sixty: each is a colon and one or two digits,
of which the first of two is below six. There is at least one part. -/
def afterSixties? : List Char → Option (List Char)
  | ':' :: a :: b :: cs =>
    if '0' ≤ a && a ≤ '5' && b.isDigit then some ((afterSixties? cs).getD cs)
    else if a.isDigit then some ((afterSixties? (b :: cs)).getD (b :: cs))
    else none
  | [':', a] => if a.isDigit then some [] else none
  | _ => none

/-- Whether characters without a sign have the form of a whole number. -/
def isIntBody : List Char → Bool
  | [] => false
  | '0' :: cs =>
    match cs with
    | [] => true
    | 'b' :: ds => allOf (fun c => c = '0' || c = '1' || c = '_') ds
    | 'x' :: ds => allOf (fun c => isSpacedDigit c || ('a' ≤ c.toLower && c.toLower ≤ 'f')) ds
    | ds => allOf (fun c => ('0' ≤ c && c ≤ '7') || c = '_') ds
  | c :: cs =>
    let rest := cs.dropWhile isSpacedDigit
    c.isDigit && (rest.isEmpty || afterSixties? rest == some [])

/-- Whether characters are nothing, or an exponent with a sign. -/
def isExponent : List Char → Bool
  | [] => true
  | e :: sign :: ds => (e = 'e' || e = 'E') && (sign = '+' || sign = '-') && allOf Char.isDigit ds
  | _ => false

/-- Whether the characters after a point are digits with an exponent. -/
def isFraction (cs : List Char) : Bool := isExponent (cs.dropWhile isSpacedDigit)

/-- Whether characters without a sign have the form of a number with a point before which digits
stand; a number in base sixty has no exponent. -/
def isFloatBody : List Char → Bool
  | [] => false
  | c :: cs =>
    let rest := cs.dropWhile isSpacedDigit
    c.isDigit && match rest with
      | '.' :: cs => isFraction cs
      | rest => match afterSixties? rest with
        | some ('.' :: cs) => cs.all isSpacedDigit
        | _ => false

/-- Whether characters have the form of a number with a point. -/
def isFloat (cs : List Char) : Bool :=
  isFloatBody (afterSign cs) ||
    [".inf", ".Inf", ".INF"].contains (String.ofList (afterSign cs)) ||
    [".nan", ".NaN", ".NAN"].contains (String.ofList cs) ||
    match cs with
    | '.' :: d :: cs => d.isDigit && isFraction cs
    | _ => false

/-- Whether characters have the form of a moment, a date alone being given in full. -/
def isMoment (cs : List Char) : Bool :=
  match WrittenMoment.ofChars? cs with
  | some m => m.clock.isSome || m.isFull
  | none => false

/-- The words for truth values. -/
def truthWords : List String := ["yes", "no", "true", "false", "on", "off"]

/-- Whether a text is a word in small letters, in capitals, or with a capital at the start. -/
def isCasedWord (words : List String) (s : String) : Bool :=
  words.any fun w => s == w || s == w.map Char.toUpper || s == w.capitalize

/-- A text without a line break at its end. -/
def withoutFinalBreak (s : String) : String :=
  match s.toList.reverse with
  | '\n' :: cs => String.ofList cs.reverse
  | _ => s

/-- The tag of a plain text. -/
def ofPlain (text : String) : Tag :=
  let s := withoutFinalBreak text
  let cs := s.toList
  if text = "" || s = "~" || isCasedWord ["null"] s then null
  else if isCasedWord truthWords s then bool
  else if isFloat cs then float
  else if isIntBody (afterSign cs) then int
  else if isMoment cs then timestamp
  else if s = "<<" then merge
  else if s = "=" then value
  else str

end Tag

end DataSchema
