import DataSchema.Validation

set_option autoImplicit false

/-!
# Assertions

Checks for test suites: that a value conforms to a schema, and that the schemas of a registry
accept their own examples.

## Main definitions

* `DataSchema.assertConforms` — a value that conforms, or what is wrong with it.
* `DataSchema.assertExamples` — whether all examples of a registry conform.
-/

namespace DataSchema

/-- Why an assertion does not hold. -/
inductive AssertionFailure
  /-- Something does not conform. -/
  | unmet (message : String)
  /-- Checking stopped. -/
  | fault (f : Fault)

/-- What an assertion is about. -/
inductive AssertionSubject
  /-- A named schema. -/
  | name (name : String)
  /-- A schema node. -/
  | node (n : Node)

namespace AssertionSubject

/-- The node that the value is checked against. -/
def toNode : AssertionSubject → Node
  | name n => .ref n
  | node n => n

/-- How the subject is named in a message. -/
def label : AssertionSubject → String
  | name n => n
  | node (.ref _) => "Reference"
  | node (.schema _) => "Schema"

end AssertionSubject

/-- A value that conforms to a schema, unchanged. -/
def assertConforms (registry : Registry) (subject : AssertionSubject) (v : Value) (limit : Int) :
    Except AssertionFailure Value := do
  let issues ← (validate registry subject.toNode v limit).mapError .fault
  if issues.isEmpty then return v
  throw (.unmet ("Value does not conform to " ++ subject.label ++ ":\n" ++ Issue.lines issues))

/-- The example of a node, if it has one. -/
def Node.sample? : Node → Option Value
  | .ref _ => none
  | .schema s => if s.sample.isNull then none else some s.sample

/-- What is wrong with the example of a named node, in words. -/
def exampleFailures (registry : Registry) (limit : Int) (entry : String × Node) :
    Except Fault (List String) :=
  match entry.2.sample? with
  | none => .ok []
  | some sample => do
    let issues ← validate registry (.ref entry.1) sample limit
    if issues.isEmpty then return []
    return [entry.1 ++ ":\n" ++ Issue.lines issues]

/-- Succeeds if every schema of a registry accepts its own example. -/
def assertExamples (registry : Registry) (limit : Int) : Except AssertionFailure Unit := do
  let failures ← (registry.entries.mapM (exampleFailures registry limit)).mapError .fault
  if failures.flatten.isEmpty then return ()
  throw (.unmet ("Schema examples do not conform:\n" ++ "\n".intercalate failures.flatten))

end DataSchema
