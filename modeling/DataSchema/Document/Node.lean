import DataSchema.Document.Tag

set_option autoImplicit false

/-!
# Nodes of documents

A document is a tree of texts, sequences and mappings, each with a tag. Mappings are built with
what is merged into them already in place.

## Main definitions

* `DataSchema.DocumentNode` — the nodes.
* `DataSchema.DocumentNode.ofPairs` — a mapping, other mappings merged into it.
-/

namespace DataSchema

/-- A node of a document. -/
inductive DocumentNode
  /-- A text. -/
  | scalar (tag : Tag) (text : String)
  /-- A sequence. -/
  | sequence (tag : Tag) (items : List DocumentNode)
  /-- A mapping, with the keys of merges taken out. It has a flaw if a merge was not possible. -/
  | mapping (tag : Tag) (pairs : List (DocumentNode × DocumentNode)) (badMerge : Bool)

namespace DocumentNode

instance : Inhabited DocumentNode := ⟨.scalar .null ""⟩

/-- A node that is not written down. -/
def empty : DocumentNode := .scalar .null ""

/-- The tag of a node. -/
def tag : DocumentNode → Tag
  | scalar t _ | sequence t _ | mapping t _ _ => t

/-- The pairs of a mapping that can be merged into another. -/
def pairs? : DocumentNode → Option (List (DocumentNode × DocumentNode))
  | mapping _ pairs false => some pairs
  | _ => none

/-- The pairs that a merge brings in: those of a mapping, or those of several, the last of which
come first. -/
def merged? : DocumentNode → Option (List (DocumentNode × DocumentNode))
  | sequence _ items => do
    let lists ← items.mapM pairs?
    return lists.reverse.flatten
  | node => node.pairs?

/-- A mapping of pairs. What is merged into it comes before its own pairs, which take precedence
because they are put in later. -/
def ofPairs (tag : Tag) (pairs : List (DocumentNode × DocumentNode)) : DocumentNode :=
  let merges := pairs.filter fun p => p.1.tag = .merge
  let own := pairs.filter fun p => p.1.tag ≠ .merge
  match merges.mapM fun p => p.2.merged? with
  | some lists => .mapping tag (lists.flatten ++ own) false
  | none => .mapping tag own true

end DocumentNode

end DataSchema
