import DataSchema.Document.Node
import DataSchema.Value.Mapping

set_option autoImplicit false

/-!
# The meaning of nodes

The values that the nodes of a document stand for. Nodes further up are looked at first: when
several nodes have no meaning, the fault of the one that lies least deep counts, and among those
the first.

## Main definitions

* `DataSchema.Meaning` — a value with the faults on the way to it.
* `DataSchema.DocumentNode.meaning` — what a node stands for.
* `DataSchema.DocumentNode.value` — its value, or the first fault.
-/

namespace DataSchema

namespace ScalarMeaning

/-- The characters of a number without low lines, and with its sign taken off. -/
def signed (text : String) : Bool × List Char := takeSign (text.toList.filter (· ≠ '_'))

/-- The parts of a text between colons. -/
def sixtieths (cs : List Char) : List String := (String.ofList cs).splitOn ":"

/-- The whole number of digits in base sixty. -/
def sexagesimal? (parts : List String) : Option Int :=
  parts.foldl (fun n part => do return (← n) * 60 + (← readInteger? 10 part)) (some 0)

/-- The whole number that a text without sign and low lines denotes. A leading zero announces
base eight, with a letter after it base two or sixteen. -/
def magnitude? (cs : List Char) : Option Int :=
  match cs with
  | ['0'] => some 0
  | '0' :: 'b' :: ds => readInteger? 2 (String.ofList ds)
  | '0' :: 'x' :: ds => readInteger? 16 (String.ofList ds)
  | '0' :: _ => readInteger? 8 (String.ofList cs)
  | cs =>
    if cs.contains ':' then sexagesimal? (sixtieths cs) else readInteger? 10 (String.ofList cs)

/-- The whole number that a text denotes. -/
def int (text : String) : Except DocumentFault Value :=
  match signed text with
  | (_, []) => .error .emptyNumber
  | (negative, cs) =>
    match magnitude? cs with
    | some n => .ok (.int (if negative then -n else n))
    | none => .error .notNumber

/-- The double that a text in small letters denotes, words for the numbers without digits
included. -/
def double? (text : String) : Option Binary64 :=
  let (negative, word) := takeSign (trimBy isBlank text.toList)
  if ["inf", "infinity"].contains (String.ofList word) then some (.infinity negative)
  else if String.ofList word = "nan" then some .nan
  else (Numeral.ofChars? (trimBy isBlank text.toList)).map Numeral.toBinary64

/-- The sum of digits in base sixty, the last one first, each times its weight. -/
def sexagesimalSum : List Binary64 → Int → Binary64 → Except DocumentFault Binary64
  | [], _, sum => .ok sum
  | d :: ds, weight, sum =>
    let factor := Binary64.ofInt weight
    if factor.isFinite then sexagesimalSum ds (weight * 60) (sum.add (d.mul factor))
    else .error .numberTooLarge

/-- The double that a text without sign and low lines denotes. -/
def doubleMagnitude (cs : List Char) : Except DocumentFault Binary64 :=
  if cs = ".inf".toList then .ok (.infinity false)
  else if cs = ".nan".toList then .ok .nan
  else if cs.contains ':' then
    match (sixtieths cs).mapM double? with
    | some ds => sexagesimalSum ds.reverse 1 (Binary64.ofInt 0)
    | none => .error .notNumber
  else match double? (String.ofList cs) with
    | some x => .ok x
    | none => .error .notNumber

/-- The double that a text denotes. -/
def float (text : String) : Except DocumentFault Value :=
  match signed (text.map Char.toLower) with
  | (_, []) => .error .emptyNumber
  | (negative, cs) => do
    let x ← doubleMagnitude cs
    return .float (if negative then x.neg else x)

/-- The truth value that a word names. -/
def bool (text : String) : Except DocumentFault Value :=
  let word := text.map Char.toLower
  if ["yes", "true", "on"].contains word then .ok (.bool true)
  else if ["no", "false", "off"].contains word then .ok (.bool false)
  else .error .notTruthValue

/-- The moment that a text denotes. -/
def timestamp (text : String) : Except DocumentFault Value :=
  match WrittenMoment.ofChars? (Tag.withoutFinalBreak text).toList with
  | none => .error .notTimestamp
  | some m => do
    match ← m.value with
    | .inl date => return .date date
    | .inr moment => return .dateTime moment

end ScalarMeaning

/-- The value of a text with a tag, if texts can have that tag. -/
def scalarValue? (tag : Tag) (text : String) : Option (Except DocumentFault Value) :=
  match tag with
  | .null => some (.ok .null)
  | .bool => some (ScalarMeaning.bool text)
  | .int => some (ScalarMeaning.int text)
  | .float => some (ScalarMeaning.float text)
  | .str => some (.ok (.str text))
  | .timestamp => some (ScalarMeaning.timestamp text)
  | .sequence | .mapping | .merge | .value | .other _ => none

/-- A value with the faults on the way to it, each with the depth of its node. -/
structure Meaning where
  /-- The value; of no account if there are faults. -/
  value : Value
  /-- The faults, in the order of their nodes. -/
  faults : List (Nat × DocumentFault)

namespace Meaning

/-- A value without faults. -/
def ofValue (v : Value) : Meaning := ⟨v, []⟩

/-- A fault at a depth. -/
def ofFault (depth : Nat) (fault : DocumentFault) : Meaning := ⟨.null, [(depth, fault)]⟩

/-- A collection whose items have a fault; it is no key, like every collection. -/
def ofItems (depth : Nat) (fault : DocumentFault) : Meaning := ⟨.list [], [(depth + 1, fault)]⟩

/-- The fault of a node with a tag that it cannot have. The tag of a collection is found out only
when its items are looked at. -/
def ofTag (depth : Nat) (tag : Tag) : Meaning :=
  match tag with
  | .merge | .value | .other _ => ofFault depth (.malformed .unknownTag)
  | .sequence | .mapping => ofItems depth (.malformed .misplacedTag)
  | _ => ofFault depth (.malformed .misplacedTag)

/-- The fault that counts: the first of those at the least depth. -/
def firstFault? (m : Meaning) : Option DocumentFault :=
  match (m.faults.map Prod.fst).min? with
  | some depth => m.faults.lookup depth
  | none => none

end Meaning

/-- The fault of a key that cannot be one. -/
def keyFaults (depth : Nat) (key : Value) : List (Nat × DocumentFault) :=
  if key.isKey then [] else [(depth, .malformed .compositeKey)]

namespace DocumentNode

mutual

/-- What a node at a depth stands for. The items of a collection are one deeper. -/
def meaning (depth : Nat) : DocumentNode → Meaning
  | scalar tag text =>
    match scalarValue? tag text with
    | some (.ok v) => .ofValue v
    | some (.error fault) => .ofFault depth fault
    | none => .ofTag depth tag
  | sequence .sequence items =>
    let (values, faults) := itemMeanings (depth + 1) items
    ⟨.list values, faults⟩
  | mapping .mapping _ true => .ofItems depth (.malformed .badMerge)
  | mapping .mapping pairs false =>
    let (entries, faults) := pairMeanings (depth + 1) pairs
    ⟨.mapping (Entries.merge [] entries), faults⟩
  | sequence tag _ | mapping tag _ _ => .ofTag depth tag

/-- The values of items, and the faults on the way. -/
def itemMeanings (depth : Nat) : List DocumentNode → List Value × List (Nat × DocumentFault)
  | [] => ([], [])
  | item :: items =>
    let m := meaning depth item
    let (values, faults) := itemMeanings depth items
    (m.value :: values, m.faults ++ faults)

/-- The keys and values of pairs, and the faults on the way. The key of a default value is the
text that it is written as. -/
def pairMeanings (depth : Nat) :
    List (DocumentNode × DocumentNode) → List (Value × Value) × List (Nat × DocumentFault)
  | [] => ([], [])
  | (key, node) :: pairs =>
    let k := match key with
      | scalar .value text => Meaning.ofValue (.str text)
      | key => meaning depth key
    let v := meaning depth node
    let (entries, faults) := pairMeanings depth pairs
    ((k.value, v.value) :: entries, k.faults ++ keyFaults depth k.value ++ v.faults ++ faults)

end

/-- The value of a node, or the fault that counts. -/
def value (node : DocumentNode) : Except DocumentFault Value :=
  let m := node.meaning 0
  match m.firstFault? with
  | some fault => .error fault
  | none => .ok m.value

end DocumentNode

end DataSchema
