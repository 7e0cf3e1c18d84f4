import DataSchema.Number.Numeral

set_option autoImplicit false

/-!
# Identifiers and clock times

## Main definitions

* `DataSchema.isUuid` — whether a text is a universally unique identifier.
* `DataSchema.isClockTime` — whether a text is a time of day such as `10:30:00`.
-/

namespace DataSchema

/-- Whether a text is a universally unique identifier: without its name space, braces and
hyphens it is a hexadecimal number of 32 characters, and its groups are set off by hyphens. -/
def isUuid (s : String) : Bool :=
  let bare := (s.replace "urn:" "").replace "uuid:" ""
  let hex := (trimBy (fun c => c = '\x7b' || c = '\x7d') bare.toList).filter (· ≠ '-')
  let cs := s.toList
  hex.length == 32 && (readInteger? 16 (String.ofList hex)).isSome &&
    [8, 13, 18, 23].all fun i => cs[i]? == some '-'

/-- The rest of a text after a number of one or two digits. A second digit is taken if the first
is below `tens`, or is `tens` with the second below `units`. -/
def dropClockField (tens units : Char) (cs : List Char) : Option (List Char) :=
  match cs with
  | [] => none
  | a :: cs =>
    if !isDecimalDigit a then none
    else match cs with
      | b :: rest =>
        if (a.isDigit && a < tens && isDecimalDigit b) || (a = tens && b.isDigit && b < units) then
          some rest
        else some cs
      | [] => some cs

/-- The rest of a text after a colon. -/
def dropColon : List Char → Option (List Char)
  | ':' :: cs => some cs
  | _ => none

/-- Whether a text is an hour, a minute and a second with colons between them. A leap second is
not a time of day. -/
def isClockTime (s : String) : Bool :=
  let rest? := do
    let cs ← dropClockField '2' '4' s.toList
    let cs ← dropClockField '6' '0' (← dropColon cs)
    dropClockField '6' '0' (← dropColon cs)
  rest? == some []

end DataSchema
