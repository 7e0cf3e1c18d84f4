set_option autoImplicit false

/-!
# Sets of characters

A set of characters given by the code points at which membership changes, in ascending order:
the first starts a range that belongs to the set, the second ends it, and so on.

## Main definitions

* `DataSchema.CodePointSet` — the boundaries.
* `DataSchema.CodePointSet.contains` — membership of a character.
-/

namespace DataSchema

/-- A set of characters as the code points at which membership changes, ascending. -/
structure CodePointSet where
  /-- Starts of ranges and first code points after ranges, in turn. -/
  boundaries : List Nat

namespace CodePointSet

/-- Membership of a code point, given whether the ranges seen so far are open. -/
def containsFrom (inside : Bool) (c : Nat) : List Nat → Bool
  | [] => inside
  | b :: bs => if c < b then inside else containsFrom (!inside) c bs

/-- Whether a character belongs to the set. -/
def contains (s : CodePointSet) (c : Char) : Bool := containsFrom false c.toNat s.boundaries

end CodePointSet

end DataSchema
