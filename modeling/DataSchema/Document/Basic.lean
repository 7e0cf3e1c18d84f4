import DataSchema.Document.Tree
import DataSchema.Document.Meaning

set_option autoImplicit false

/-!
# Documents

Reading a text as a document. A text is YAML 1.1, of which JSON is a part.

## Main definitions

* `DataSchema.readDocument` — the value of a text.
-/

namespace DataSchema

/-- The characters of a text with each end of a line as one line feed. -/
def unifyLineEnds : List Char → List Char
  | [] => []
  | '\r' :: '\n' :: cs => '\n' :: unifyLineEnds cs
  | '\r' :: cs => '\n' :: unifyLineEnds cs
  | c :: cs => c :: unifyLineEnds cs

/-- Whether a character can stand in a document: all but most control characters, surrogates and
the last two code points of the first plane. -/
def isDocumentChar (c : Char) : Bool :=
  let n := c.toNat
  n = 9 || n = 10 || n = 13 || (32 ≤ n && n ≤ 126) || n = 0x85 || (0xa0 ≤ n && n ≤ 0xfffd) ||
    0x10000 ≤ n

/-- The node of a text; none if it has no document. -/
def readTree? (text : String) : Except DocumentFault (Option DocumentNode) :=
  let cs := unifyLineEnds text.toList
  if cs.all isDocumentChar then (TokenList.ofChars cs).toTree?
  else .error (.malformed .unprintable)

/-- The value of a text; a text without a document has the null value. -/
def readDocument (text : String) : Except DocumentFault Value := do
  match ← readTree? text with
  | some node => node.value
  | none => .ok .null

end DataSchema
