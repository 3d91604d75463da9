import Relmap.Gateway.Basic

/-!
# Plans of queries

What a gateway asks for is planned before it is run: a base query and the condition that is added to
it. A query for rows has the columns of the table and those of its subclasses, which are joined by
the identifier.
-/

namespace Relmap

open Sql

/-- A query with its parameters in the form in which a database stores them. -/
abbrev BoundQuery := Select × List Parameter

/-- A requested order: columns with directions, the first one decides first. -/
abbrev Ordering := List (String × Direction)

/-- A base query and the condition for it. -/
structure Plan where
  base : Select
  condition : Condition

/-- The planned query. -/
def Plan.query (p : Plan) : Except Error BoundQuery :=
  (p.condition.params.mapM Parameter.toStored).map fun params =>
    (p.condition.applyTo p.base, params)

namespace Gateway

/-- The output columns of a subclass, named after its discriminator. -/
def subclassItems (discriminator : String) (child : Metadata) : List SelectItem :=
  child.columns.names.map fun column =>
    ⟨.of child.table column, some (prefixedColumn discriminator column)⟩

/-- The output columns of a query for rows: the table's own, then those of its subclasses. -/
def outputItems (g : Gateway) : List SelectItem :=
  g.metadata.columns.names.map (fun column => ⟨.of g.aliasName column, none⟩)
    ++ g.subclasses.flatMap fun s => subclassItems s.1 s.2

/-- Joins the table of a subclass by the identifier. A table is joined once. -/
def joinSubclass (g : Gateway) (identifier : String) (q : Select) (child : Metadata) :
    Except Error Select :=
  if q.isJoined child.table then .ok q
  else child.identifierColumn.map fun column =>
    q.leftJoin child.table child.table
      (.equal (.of g.aliasName identifier) (.of child.table column))

/-- Adds the table and its subclasses to output columns. -/
def source (g : Gateway) (columns : List SelectItem) : Except Error Select := do
  let q := { Select.empty with columns }.from g.table g.aliasName
  if g.metadata.hasSubclasses then
    let identifier ← g.metadata.identifierColumn
    (g.subclasses.map (·.2)).foldlM (g.joinSubclass identifier) q
  else pure q

/-- The query for all rows. -/
def selectQuery (g : Gateway) : Except Error Select := g.source g.outputItems

/-- The columns by which rows can be ordered. -/
def orderableColumns (g : Gateway) : List String :=
  g.metadata.columns.names ++ g.subclasses.flatMap fun s => s.2.columns.names

/-- A column to order by: of the table, or of the first subclass that declares it. -/
def orderExpr (g : Gateway) (column : String) : Except Error Expr :=
  if g.metadata.hasColumn column then .ok (.of g.aliasName column)
  else
    match g.registry.declaringSubclass? g.metadata column with
    | some child => .ok (.of child.table column)
    | none => .error (.statement (.notOrderable column g.table g.orderableColumns))

/-- Adds an order to a query. -/
def ordered (g : Gateway) (q : Select) (ordering : Ordering) : Except Error Select :=
  ordering.foldlM (fun q term => (g.orderExpr term.1).map fun e => q.orderBy e term.2) q

/-- Compiles criteria against the table. -/
def condition (g : Gateway) (c : Criteria) : Except Error Condition :=
  compile g.registry g.table g.aliasName c

/-- The plan to find rows. Without an offset none is written. -/
def findPlan (g : Gateway) (c : Criteria) (ordering : Ordering) (limit : Option Nat)
    (offset : Nat) : Except Error Plan := do
  let base ← g.selectQuery
  let base ← g.ordered base ordering
  let condition ← g.condition c
  let base := base.withLimit limit
  pure ⟨if 0 < offset then base.withOffset (some offset) else base, condition⟩

/-- The plan to count the rows that criteria select, each once whatever rows are joined to it. -/
def countPlan (g : Gateway) (c : Criteria) : Except Error Plan := do
  let identifier ← g.metadata.identifierColumn
  let base ← g.source [⟨.count true (.of g.aliasName identifier), none⟩]
  let condition ← g.condition c
  pure ⟨base, condition⟩

/-- The query to find rows. -/
def findQuery (g : Gateway) (c : Criteria) (ordering : Ordering) (limit : Option Nat)
    (offset : Nat) : Except Error BoundQuery :=
  g.findPlan c ordering limit offset >>= Plan.query

/-- The query to count rows. -/
def countQuery (g : Gateway) (c : Criteria) : Except Error BoundQuery :=
  g.countPlan c >>= Plan.query

end Gateway
end Relmap
