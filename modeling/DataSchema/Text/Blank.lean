set_option autoImplicit false

/-!
# Blank characters

The characters that count as white space around a value: the Unicode white space characters and
the four information separators.

## Main definitions

* `DataSchema.isBlank` — whether a character is blank.
* `DataSchema.strip` — a text without the blanks at its ends.
-/

namespace DataSchema

/-- The code points of the blank characters. -/
def blankCodePoints : List Nat := [
  9, 10, 11, 12, 13, 28, 29, 30, 31, 32, 133, 160, 0x1680, 0x2000, 0x2001, 0x2002, 0x2003,
  0x2004, 0x2005, 0x2006, 0x2007, 0x2008, 0x2009, 0x200a, 0x2028, 0x2029, 0x202f, 0x205f, 0x3000]

/-- Whether a character is blank. -/
def isBlank (c : Char) : Bool := blankCodePoints.contains c.toNat

/-- The characters left after those at both ends that satisfy `p` are dropped. -/
def trimBy (p : Char → Bool) (cs : List Char) : List Char :=
  ((cs.dropWhile p).reverse.dropWhile p).reverse

/-- A text without the blanks at its ends. -/
def strip (s : String) : String := String.ofList (trimBy isBlank s.toList)

end DataSchema
