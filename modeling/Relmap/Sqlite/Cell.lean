import Relmap.Error.Basic

/-!
# Cells

The storage classes of SQLite. Values without a class of their own are stored as integers or as
texts; a list has no cell, since a statement binds its items one by one.
-/

namespace Relmap.Sqlite

/-- A value as SQLite stores it. -/
inductive Cell where
  | null
  | integer (value : Int64)
  | real (value : Binary64)
  | text (value : String)
  | blob (bytes : List UInt8)

namespace Cell

/-- The cell that a value is bound as. Not-a-number becomes null. -/
def ofValue? : Value → Option Cell
  | .null => some .null
  | .bool b => some (.integer (if b then 1 else 0))
  | .int n => some (.integer n)
  | .real x => some (if x.isNaN then .null else .real x)
  | .text s => some (.text s)
  | .bytes data => some (.blob data)
  | .uuid u => some (.text u.text)
  | .json j => some (.text j.text)
  | .date d => some (.text d.text)
  | .time t => some (.text t.text)
  | .dateTime t => some (.text t.text)
  | .timestamp t => some (.text t.text)
  | .list _ => none

/-- The value that a cell is read as. -/
def value : Cell → Value
  | .null => .null
  | .integer n => .int n
  | .real x => .real x
  | .text s => .text s
  | .blob data => .bytes data

/-- The cell of a bound value, which must not be a list. -/
def bind (value : Value) : Except Error Cell :=
  match ofValue? value with
  | some cell => .ok cell
  | none => .error (.driver "a list cannot be bound to one parameter" [])

end Cell
end Relmap.Sqlite
