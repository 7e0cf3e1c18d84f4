import DataSchema.Store.DocumentPath

set_option autoImplicit false

/-!
# Directories

The texts that documents are loaded from, by their places. Several paths can lead to one place.

## Main definitions

* `DataSchema.Directory` — texts by place, and the folders that exist.
* `DataSchema.Directory.locate?` — the place that a path leads to.
* `DataSchema.Directory.write`, `DataSchema.Directory.remove?` — changing what is there.
-/

namespace DataSchema

/-- The names of the folders down to a text, and its own name. -/
abbrev Place := List String

/-- Texts by place, and the folders that exist. -/
structure Directory where
  /-- The texts. -/
  texts : List (Place × String)
  /-- The folders, apart from the current one. -/
  folders : List Place

namespace Directory

/-- Nothing exists. -/
def empty : Directory := ⟨[], []⟩

/-- Whether a folder exists. -/
def isFolder (d : Directory) (place : Place) : Bool := place.isEmpty || d.folders.contains place

/-- The text at a place. -/
def text? (d : Directory) (place : Place) : Option String := d.texts.lookup place

/-- The place that a step leads to. Stepping out of the top of an absolute path leads nowhere
else, and stepping out of the current folder leads further and further out. -/
def step (place : Place) (name : String) : Place :=
  if name != ".." then place ++ [name]
  else match place.reverse with
    | [] => [".."]
    | last :: before =>
      if last = ".." then place ++ [".."]
      else if last = "/" || last = "//" then place
      else before.reverse

/-- The place that some steps lead to, every folder on the way existing. -/
def walk? (d : Directory) (place : Place) : List String → Option Place
  | [] => some place
  | name :: names => if d.isFolder place then walk? d (step place name) names else none

/-- The place of the text that a path leads to. -/
def locate? (d : Directory) (path : DocumentPath) : Option Place :=
  (d.walk? [] path.steps).filter fun place => (d.text? place).isSome

/-- The folders that some steps lead through. -/
def foldersAlong (place : Place) : List String → List Place
  | [] => []
  | [_] => []
  | name :: names => step place name :: foldersAlong (step place name) names

/-- The directory with a text written; the folders on the way to it are made if need be. -/
def write (d : Directory) (path : DocumentPath) (text : String) : Directory :=
  let place := path.steps.foldl step []
  { texts := (place, text) :: d.texts.filter (·.1 != place)
    folders := foldersAlong [] path.steps ++ d.folders }

/-- The directory with a text removed, if there is one. Folders stay. -/
def remove? (d : Directory) (path : DocumentPath) : Option Directory :=
  (d.locate? path).map fun place => { d with texts := d.texts.filter (·.1 != place) }

end Directory

end DataSchema
