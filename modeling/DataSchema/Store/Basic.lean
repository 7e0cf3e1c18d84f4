import DataSchema.Store.Directory
import DataSchema.Document.Basic
import DataSchema.Schema.Reader

set_option autoImplicit false

/-!
# Loading documents

Documents are loaded from a directory. A store keeps the documents that have been loaded, so that
each is read once even if the directory changes afterwards; that can be switched off.

## Main definitions

* `DataSchema.Store` — a directory, and the documents that are kept.
* `DataSchema.Loads` — computations that load documents.
* `DataSchema.Store.load` — loading a document.
-/

namespace DataSchema

/-- A directory, and the documents that have been loaded from it. -/
structure Store where
  /-- Where documents are loaded from. -/
  directory : Directory
  /-- The documents that are kept, by place. -/
  cache : List (Place × Value)
  /-- Whether documents are kept, and taken from those that are. -/
  caching : Bool

/-- A computation that loads documents: what becomes of the store, and the outcome. -/
def Loads (α : Type) : Type := Store → Store × Traced ReadError α

namespace Loads

variable {α β : Type}

/-- A result for which nothing is loaded. -/
def result (a : α) : Loads α := fun s => (s, .result a)

/-- A computation for which nothing is loaded. -/
def lift (x : Reads α) : Loads α := fun s => (s, x)

/-- One computation after another. The second is left out if the first fails; the store is left
as the first made it. -/
def andThen (x : Loads α) (f : α → Loads β) : Loads β := fun s =>
  let (s, t) := x s
  match t.outcome with
  | .error e => (s, ⟨t.events, .error e⟩)
  | .ok a =>
    let (s, u) := f a s
    (s, ⟨t.events ++ u.events, u.outcome⟩)

instance : Monad Loads where
  pure := result
  bind := andThen

end Loads

namespace Store

/-- A store that keeps nothing yet. -/
def ofDirectory (d : Directory) (caching : Bool) : Store := ⟨d, [], caching⟩

/-- The document that is kept for a place. -/
def cached? (s : Store) (place : Place) : Option Value :=
  if s.caching then s.cache.lookup place else none

/-- The store with a document kept, if documents are kept. -/
def keep (s : Store) (place : Place) (document : Value) : Store :=
  if s.caching then
    { s with cache := (place, document) :: s.cache.filter (·.1 != place) }
  else s

/-- The store with no document kept. -/
def clear (s : Store) : Store := { s with cache := [] }

/-- The store with a text written. -/
def write (s : Store) (path text : String) : Store :=
  { s with directory := s.directory.write (.ofText path) text }

/-- The store with a text removed, if there is one. -/
def remove? (s : Store) (path : String) : Option Store :=
  (s.directory.remove? (.ofText path)).map fun d => { s with directory := d }

/-- The document of a text; a text without a document counts as an empty mapping. -/
def documentOf (text : String) : Except DocumentFault Value := do
  let v ← readDocument text
  return if v.isNull then .mapping [] else v

/-- Why a document with a fault is not loaded from a path. -/
def unreadable (path : String) : DocumentFault → ReadError
  | .malformed flaw => .definition (.documentUnreadable path flaw.message)
  | fault => .fault (.document fault)

/-- The document of a path. What is kept for its place is preferred, as long as there is a text. -/
def load (path : String) : Loads Value := fun s =>
  let path := DocumentPath.ofText path
  match s.directory.locate? path with
  | none => (s, .fail (.definition (.documentNotFound path.text)))
  | some place =>
    match s.cached? place with
    | some document => (s, ⟨[.loadingFromCache path.text], .ok document⟩)
    | none =>
      match documentOf ((s.directory.text? place).getD "") with
      | .ok document => (s.keep place document, ⟨[.loading path.text], .ok document⟩)
      | .error fault => (s, ⟨[.loading path.text], .error (unreadable path.text fault)⟩)

end Store

end DataSchema
