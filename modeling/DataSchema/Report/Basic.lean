import DataSchema.Issue
import DataSchema.Report.Json

set_option autoImplicit false

/-!
# Reports

What is said about the documents that have been checked, for people or as JSON.

## Main definitions

* `DataSchema.DocumentReport` — what was found in a document, and what it was cast to.
* `DataSchema.DocumentReport.payload` — reports as a value.
* `DataSchema.DocumentReport.jsonText`, `humanText` — reports as text.
-/

namespace DataSchema

/-- What was found in a document. -/
structure DocumentReport where
  /-- The document. -/
  document : String
  /-- What was found. -/
  issues : List Issue
  /-- What the document was cast to, if it was cast without issues. -/
  value : Option Value

/-- An issue as an entry of a report. -/
def Issue.payload (i : Issue) : Value :=
  .mapping [(.str "path", .str i.pointer), (.str "kind", .str i.kind.name),
    (.str "message", .str i.message)]

namespace DocumentReport

/-- Whether nothing was found. -/
def isClean (r : DocumentReport) : Bool := r.issues.isEmpty

/-- A report as a mapping; the value is given if there is one. -/
def payload (r : DocumentReport) : Value :=
  .mapping ([(.str "file", .str r.document), (.str "ok", .bool r.isClean),
    (.str "issues", .list (r.issues.map Issue.payload))] ++
    (r.value.map fun v => (.str "value", v)).toList)

/-- Reports as JSON text. -/
def jsonText (rs : List DocumentReport) : Except JsonFault String := do
  return (← (Value.list (rs.map payload)).json) ++ "\n"

/-- An issue as a line for people. -/
def issueLine (i : Issue) : String :=
  "  ERROR " ++ i.pointer ++ " [" ++ i.kind.name ++ "]: " ++ i.message ++ "\n"

/-- A report for people: the issues under the name of the document, or the value. -/
def human (r : DocumentReport) : Except JsonFault String :=
  if !r.isClean then
    .ok ("\n" ++ r.document ++ ":\n" ++ String.join (r.issues.map issueLine))
  else match r.value with
    | some v => do return (← v.json) ++ "\n"
    | none => .ok ""

/-- Reports for people. -/
def humanText (rs : List DocumentReport) : Except JsonFault String := do
  return String.join (← rs.mapM human)

end DocumentReport

end DataSchema
