import Relmap.Database.Driver
import Relmap.Sqlite.Cell

/-!
# A table in SQLite

A table with a generated `id` and one column `v`. A new row takes the identifier after the greatest
one.
-/

namespace Relmap.Sqlite

/-- The rows of the table by identifier. -/
structure Store where
  rows : List (Int64 × Cell)

namespace Store

def empty : Store := ⟨[]⟩

/-- The identifier of the next row. -/
def nextId (s : Store) : Int64 :=
  match s.rows.getLast? with
  | some (id, _) => id + 1
  | none => 1

/-- The cell that a value is assigned as. An empty list is written as null, and a list of one item
as the item. -/
def assigned (value : Value) : Except Error Cell :=
  match value with
  | .list [] => .ok .null
  | .list [item] => Cell.bind item
  | value => Cell.bind value

/-- Inserts a row. -/
def insert (s : Store) (value : Value) : Except Error (Response × Store) :=
  (assigned value).map fun cell =>
    (⟨.count 1, some s.nextId⟩, ⟨s.rows ++ [(s.nextId, cell)]⟩)

/-- Assigns a value in every row. -/
def updateAll (s : Store) (value : Value) : Except Error (Response × Store) :=
  (assigned value).map fun cell =>
    (⟨.count s.rows.length, none⟩, ⟨s.rows.map fun row => (row.1, cell)⟩)

/-- Deletes every row. -/
def deleteAll (s : Store) : Response × Store := (⟨.count s.rows.length, none⟩, empty)

/-- The rows in the order of their identifiers. -/
def contents (s : Store) : List Row :=
  s.rows.map fun row => [("id", .int row.1), ("v", row.2.value)]

end Store
end Relmap.Sqlite
