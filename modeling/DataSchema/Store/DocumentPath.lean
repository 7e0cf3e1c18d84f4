set_option autoImplicit false

/-!
# Paths of documents

A path names a document by the folders on the way to it. Empty parts and parts that stay in place
do not count; a part that leads back out of a folder does, because the folder has to exist.

## Main definitions

* `DataSchema.DocumentPath` — a path in parts.
* `DataSchema.DocumentPath.ofText`, `DataSchema.DocumentPath.text` — reading and writing paths.
-/

namespace DataSchema

/-- A path in parts. -/
structure DocumentPath where
  /-- The slashes that the path starts with; none if it starts in the current folder. -/
  root : String
  /-- The names on the way. -/
  parts : List String
  deriving DecidableEq, Repr

namespace DocumentPath

/-- The slashes that some characters start with. Three or more are like one. -/
def rootOf : List Char → String
  | '/' :: '/' :: '/' :: _ => "/"
  | '/' :: '/' :: _ => "//"
  | '/' :: _ => "/"
  | _ => ""

/-- A written path in parts. -/
def ofText (s : String) : DocumentPath :=
  ⟨rootOf s.toList, (s.splitOn "/").filter fun p => p != "" && p != "."⟩

/-- A path as it is written without what does not count. -/
def text (p : DocumentPath) : String :=
  if p.root = "" && p.parts.isEmpty then "." else p.root ++ "/".intercalate p.parts

/-- The names from the root on, the root of an absolute path being one of them. -/
def steps (p : DocumentPath) : List String := if p.root = "" then p.parts else p.root :: p.parts

end DocumentPath

end DataSchema
