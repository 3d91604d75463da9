import Relmap.Compile.Walk
import Relmap.Sql.Render

/-!
# Conditions

Criteria compiled against a table: a condition, its parameters and the joins that it needs. A
condition can be added to any query on the table.
-/

namespace Relmap

open Sql

/-- Compiled criteria. Without an expression every row meets them. -/
structure Condition where
  expr : Option Expr
  params : List Parameter
  joins : List Join

/-- Compiles criteria against a table that a query knows under an alias. -/
def compile (r : Registry) (table aliasName : String) (c : Criteria) : Except Error Condition := do
  let scope ← r.scope table aliasName
  match Walk.start.criteria scope c with
  | (.ok expr, w) => pure ⟨expr, w.params, w.query.joins⟩
  | (.error e, _) => .error e

/-- Adds a join unless a join exposes its alias. -/
def addJoinOnce (q : Select) (join : Join) : Select :=
  if q.isJoined join.target.aliasName then q else q.addJoin join

namespace Condition

/-- The note that criteria were compiled against a table. -/
def note (c : Condition) (table : String) : String :=
  "compiled criteria on " ++ table ++ " with " ++ toString c.params.length ++ " parameter(s) and "
    ++ toString c.joins.length ++ " join(s)"

/-- The condition with named placeholders, empty if there is none. -/
def text (c : Condition) : Except Error String :=
  match c.expr with
  | some e => (e.render .named c.params).outcome
  | none => .ok ""

/-- Adds the joins and the condition to a query. -/
def applyTo (c : Condition) (q : Select) : Select :=
  let q := c.joins.foldl addJoinOnce q
  match c.expr with
  | some e => q.where e
  | none => q

end Condition
end Relmap
