import Relmap.Schema.Relationship
import Relmap.Sql.Expr

/-!
# Hops

A hop follows one relationship from one table to the next. A joined hop adds a `LEFT JOIN` to the
query that it is in; a hop by sub-select opens, or continues, a query that the outer one is matched
with by `IN`.
-/

namespace Relmap

open Sql

/-- One relationship on a path. -/
structure Hop where
  relationship : Relationship
  /-- The name from which the query level of the hop is reached. -/
  root : String
  /-- The name of the table that the hop leaves. -/
  source : String
  /-- The table that the hop arrives at, which is also its alias. -/
  target : String
  /-- The column of the source that holds the link. -/
  column : String

namespace Hop

/-- The link of the hop: the column of the source equals the related column of the target. -/
def link (h : Hop) : Expr :=
  .equal (.of h.source h.column) (.of h.target h.relationship.relatedId)

/-- Makes the target reachable from the query. A table is joined once. -/
def join (h : Hop) (type : JoinType) (q : Select) : Select :=
  match type with
  | .joined => if q.isJoined h.target then q else q.leftJoin h.target h.target h.link
  | .subSelect =>
    let q :=
      if q.hasColumns then q
      else (q.select [.of h.target h.relationship.relatedId]).from h.target h.target
    if h.source != h.root && !q.isJoined h.target then q.innerJoin h.target h.target h.link else q

/-- Turns a condition on the last table of a query level into a condition on the level above it,
and leaves what is then to be done with the query. A sub-select is used up. -/
def close (h : Hop) (type : JoinType) (q : Select) (condition : Expr) :
    Except Error Expr × Select :=
  match type with
  | .joined => (.ok condition, q)
  | .subSelect =>
    if q.hasColumns then
      (.ok (.inQuery (.of h.root h.relationship.foreignKey) (q.where condition)), .empty)
    else (.error (.lookup .queryNotStarted), q)

end Hop
end Relmap
