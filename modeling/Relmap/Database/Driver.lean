import Relmap.Sql.Statement
import Relmap.Sql.Parameter

/-!
# Drivers

What runs statements on a database. A driver is a transition on a state of its own, so that a test
double and a real database have the same form.
-/

namespace Relmap

open Sql

/-- What a database supports. -/
structure Capability where
  /-- It runs SQL. -/
  sql : Bool
  /-- It reports the identifier that an insertion has generated. -/
  generatedIds : Bool
deriving DecidableEq, Repr

/-- A statement and values for its placeholders, in the form in which a database stores them. -/
structure Request where
  statement : Statement
  params : List Parameter

/-- What a statement yields: the number of rows that it changed, or the rows that it read. -/
inductive Rows where
  | count (n : Nat)
  | values (rows : List Row)

namespace Rows

def isCount : Rows → Bool
  | .count _ => true
  | .values _ => false

def isValues : Rows → Bool
  | .count _ => false
  | .values _ => true

/-- The number of changed rows. -/
def changed : Rows → Except Error Nat
  | .count n => .ok n
  | .values _ => .error (.internal .rowsForCount)

/-- The rows that were read. -/
def read : Rows → Except Error (List Row)
  | .count _ => .error (.internal .countForRows)
  | .values rows => .ok rows

end Rows

/-- The answer of a driver. -/
structure Response where
  rows : Rows
  /-- The identifier that an insertion generated, if the driver reports one. -/
  insertedId : Option Int64

/-- A driver with a state. -/
structure Driver (σ : Type) where
  name : String
  capability : Capability
  exec : Request → σ → Except Error Response × σ

end Relmap
