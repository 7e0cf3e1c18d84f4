import DataSchema.Text.DecimalDigit

set_option autoImplicit false

/-!
# Network addresses

The written forms of the addresses of the two versions of the Internet Protocol.

## Main definitions

* `DataSchema.isIPv4` — four decimal octets.
* `DataSchema.isIPv6` — eight hexadecimal groups, a run of zero groups possibly left out, the last
  two groups possibly written as an address of the older version.
-/

namespace DataSchema

/-- A text cut at each occurrence of a separator. -/
def splitAtChar (separator : Char) : List Char → List (List Char)
  | [] => [[]]
  | c :: cs =>
    let parts := splitAtChar separator cs
    if c = separator then [] :: parts
    else match parts with
      | [] => [[c]]
      | p :: ps => (c :: p) :: ps

/-- Whether a text is a decimal octet without leading zeros. -/
def isOctet (cs : List Char) : Bool :=
  !cs.isEmpty && cs.all Char.isDigit && cs.length ≤ 3 && (cs == ['0'] || cs.head? != some '0') &&
    cs.foldl (fun n c => n * 10 + (c.toNat - '0'.toNat)) 0 ≤ 255

/-- Whether a text is an address of version 4. -/
def isIPv4 (cs : List Char) : Bool :=
  let parts := splitAtChar '.' cs
  parts.length == 4 && parts.all isOctet

/-- Whether a text is a group of one to four hexadecimal digits. -/
def isHexGroup (cs : List Char) : Bool :=
  !cs.isEmpty && cs.length ≤ 4 && cs.all fun c => c.toNat < 128 && (baseDigit? 16 c).isSome

/-- The positions of the empty parts that are neither first nor last. -/
def innerGaps (parts : List (List Char)) : List Nat :=
  ((List.range parts.length).drop 1).dropLast.filter fun i => (parts[i]?.getD []).isEmpty

/-- Whether parts between colons make up an address of version 6. -/
def areHexGroups (parts : List (List Char)) : Bool :=
  match innerGaps parts with
  | [] => parts.length == 8 && parts.all isHexGroup
  | [gap] =>
    let before := parts.take gap
    let after := parts.drop (gap + 1)
    -- a colon at an end needs its neighbour to be empty too
    let before := if before == [[]] then [] else before
    let after := if after == [[]] then [] else after
    before.all isHexGroup && after.all isHexGroup && before.length + after.length < 8
  | _ => false

/-- Whether a text is an address of version 6 without a scope. -/
def isIPv6 (cs : List Char) : Bool :=
  let parts := splitAtChar ':' cs
  let last := parts.getLast?.getD []
  if parts.length < 3 then false
  else if last.contains '.' then
    isIPv4 last && parts.length ≤ 8 && areHexGroups (parts.dropLast ++ [['0'], ['0']])
  else parts.length ≤ 9 && areHexGroups parts

end DataSchema
