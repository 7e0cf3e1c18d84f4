import DataSchema.Store.Basic

set_option autoImplicit false

/-!
# Loading schemas

The schemas of several documents, put together in one registry. No name may occur twice.

## Main definitions

* `DataSchema.schemasSection` — the schemas of a document.
* `DataSchema.Store.loadRegistry` — the registry of several documents.
-/

namespace DataSchema

/-- The schemas of a document by name: those of its components if it has that section, and
otherwise its own entries. -/
def schemasSection (document : Value) (source : String) : Except DefinitionError Entries :=
  match document with
  | .mapping es =>
    match Entries.get? es (.str "components") with
    | some (.mapping components) =>
      match Entries.get? components (.str "schemas") with
      | some (.mapping schemas) => .ok schemas
      | some _ => .error (.sectionNotMapping source)
      | none => .ok es
    | _ => .ok es
  | _ => .error (.documentNotMapping source)

/-- A schema with its name and the document that it comes from. -/
structure SchemaEntry where
  /-- The name. -/
  name : Value
  /-- The schema. -/
  node : Node
  /-- The document. -/
  source : String

namespace SchemaEntry

/-- The document that a name comes from, if there is a schema of that name. -/
def sourceOf? (entries : List SchemaEntry) (name : Value) : Option String :=
  (entries.find? fun e => e.name.sameKey name).map source

/-- The schemas of a section put after those that are already read. -/
def ofSection (strictness : Strictness) (source : String) :
    Entries → List SchemaEntry → Reads (List SchemaEntry)
  | [], entries => pure entries
  | (name, data) :: rest, entries =>
    match sourceOf? entries name with
    | some existing => Reads.refuse (.duplicateSchema name.text source existing)
    | none => do
      let node ← data.readNode strictness (source ++ "#/" ++ name.text)
      ofSection strictness source rest (entries ++ [⟨name, node, source⟩])

/-- Schemas as a registry. -/
def registry (entries : List SchemaEntry) : Except DefinitionError Registry :=
  Registry.freeze (entries.map fun e => (e.name, .node e.node))

end SchemaEntry

namespace Store

/-- The schemas of documents put after those that are already read. -/
def loadEntries (strictness : Strictness) :
    List String → List SchemaEntry → Loads (List SchemaEntry)
  | [], entries => pure entries
  | file :: files, entries => do
    let document ← load file
    let schemas ← Loads.lift (.ofExcept ((schemasSection document file).mapError .definition))
    let entries ← Loads.lift (SchemaEntry.ofSection strictness file schemas entries)
    Loads.lift (Traced.emit (.loaded schemas.length file))
    loadEntries strictness files entries

/-- The registry of the schemas of documents. -/
def loadRegistry (strictness : Strictness) (files : List String) : Loads Registry := do
  let entries ← loadEntries strictness files []
  Loads.lift (.ofExcept ((SchemaEntry.registry entries).mapError .definition))

end Store

end DataSchema
