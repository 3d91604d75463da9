import Relmap.Gateway.Plan

/-!
# Reading rows

The operations of a gateway that find and count rows.
-/

namespace Relmap

open Sql

namespace Gateway

/-- The query of a plan, with the note that its criteria were compiled. -/
def resolved (g : Gateway) (plan : Except Error Plan) : Operation BoundQuery := do
  let plan ← plan
  Operation.remark (plan.condition.note g.table)
  plan.query

/-- Runs the query of a plan and takes the rows. -/
def fetch (g : Gateway) (plan : Except Error Plan) : Operation (List Row) := do
  let (query, params) ← g.resolved plan
  let response ← Operation.exec ⟨.query query, params⟩
  response.rows.read

/-- Fetched rows in the form in which an application holds them. -/
def toApplicationAll (g : Gateway) (rows : List Row) : Except Error (List Row) :=
  rows.mapM g.toApplication

/-- Finds the rows that criteria select. -/
def find (g : Gateway) (c : Criteria) (ordering : Ordering) (limit : Option Nat) (offset : Nat) :
    Operation (List Row) := do
  let rows ← g.fetch (g.findPlan c ordering limit offset)
  g.toApplicationAll rows

/-- Finds the first row that criteria select. -/
def findOne (g : Gateway) (c : Criteria) (ordering : Ordering) : Operation (Option Row) := do
  let rows ← g.find c ordering (some 1) 0
  pure rows.head?

/-- Finds the row of an identifier. -/
def findById (g : Gateway) (id : Value) : Operation (Option Row) := do
  let identifier ← g.metadata.identifierColumn
  g.findOne (.ofField identifier id) []

/-- Finds all rows. -/
def findAll (g : Gateway) (limit : Option Nat) (offset : Nat) : Operation (List Row) :=
  g.find .all [] limit offset

/-- The first value of the first row, which is a count. -/
def countIn (rows : List Row) : Except Error Nat :=
  match rows with
  | ((_, .int n) :: _) :: _ => .ok n.toInt.toNat
  | _ => .error (.internal .noCount)

/-- Counts the rows that criteria select. -/
def count (g : Gateway) (c : Criteria) : Operation Nat := do
  let rows ← g.fetch (g.countPlan c)
  countIn rows

end Gateway
end Relmap
