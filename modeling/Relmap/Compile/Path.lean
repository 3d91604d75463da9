import Relmap.Compile.Comparison
import Relmap.Compile.Hop
import Relmap.Text.Parts

/-!
# Paths

A path of properties leads from a table to a column of another one. Its hops are joined to the outer
query up to the first hop by sub-select, and to that sub-select from there on.
-/

namespace Relmap

open Sql

/-- The properties of a path and the column that it ends in. -/
def pathParts (field : String) : List String × String :=
  let parts := (Text.parts '.' field.toList).map String.ofList
  (parts.dropLast, parts.getLastD "")

/-- One property of a path with the tables that it connects. -/
structure Step where
  relationship : Relationship
  /-- The name of the table that the step leaves. -/
  source : String
  /-- The column of the source that holds the link. -/
  column : String
  target : Metadata

namespace Step

/-- The hop of the step in a query level that is reached from `root`. -/
def hop (s : Step) (root : String) : Hop :=
  ⟨s.relationship, root, s.source, s.target.table, s.column⟩

def isJoined (s : Step) : Bool := s.relationship.join == .joined

end Step

/-- The column of a table that holds a relationship: its foreign key, or the identifier if the
other side points back. -/
def linkColumn (m : Metadata) (r : Relationship) : Except Error String :=
  if r.isToMany then m.identifierColumn else .ok r.foreignKey

/-- Follows properties from a table with the given name. -/
def steps (registry : Registry) (m : Metadata) (source : String) :
    List String → Except Error (List Step)
  | [] => .ok []
  | property :: rest => do
    let relationship ← m.relationshipOf property
    let target ← registry.forEntity relationship.target
    let column ← linkColumn m relationship
    let rest ← steps registry target target.table rest
    pure (⟨relationship, source, column, target⟩ :: rest)

/-- The table at the end of a path. -/
def lastTable (m : Metadata) (steps : List Step) : Metadata :=
  match steps.getLast? with
  | some step => step.target
  | none => m

/-- The joins of the steps up to the first by sub-select, added to the outer query. -/
def joinOuter (aliasName : String) (steps : List Step) (q : Select) : Select :=
  (steps.takeWhile Step.isJoined).foldl (fun q step => (step.hop aliasName).join .joined q) q

/-- The steps from the first by sub-select on. -/
def innerSteps (steps : List Step) : List Step := steps.dropWhile Step.isJoined

/-- The sub-select of steps of which the first opens it. -/
def joinInner (root : String) (steps : List Step) : Select :=
  steps.foldl (fun q step => (step.hop root).join step.relationship.join q) .empty

/-- The condition on the outer query for a condition on the last table of a path. -/
def closePath (steps : List Step) (condition : Expr) : Except Error Expr :=
  match innerSteps steps with
  | [] => .ok condition
  | first :: rest =>
    ((first.hop first.source).close first.relationship.join
      (joinInner first.source (first :: rest)) condition).1

/-- A path with its tables looked up, and the type of the column that it ends in. -/
structure ResolvedPath where
  steps : List Step
  table : Metadata
  field : String
  type : ColumnType

namespace Scope

/-- Looks a path up. The last table must declare the column. -/
def resolvePath (s : Scope) (path : String) : Except Error ResolvedPath := do
  let (properties, field) := pathParts path
  let steps ← steps s.registry s.metadata s.aliasName properties
  let table := lastTable s.metadata steps
  match table.columns.get? field with
  | some type => pure ⟨steps, table, field, type⟩
  | none =>
    .error (.lookup (.unknownPathColumn field table.displayName table.columns.names
      table.properties))

end Scope

namespace ResolvedPath

/-- Compares the column at the end of the path with a value, after `n` parameters. -/
def compare (p : ResolvedPath) (n : Nat) (op : Operator) (value : Value) : Except Error Compared :=
  do
  let compared ← compareColumn (.of p.table.table p.field) p.field n op value p.type
  let condition ← closePath p.steps compared.condition
  pure { compared with condition }

end ResolvedPath
end Relmap
