import Relmap.Sql.Parameter
import Relmap.Sqlite.Cell

/-!
# Projections of parameters

What SQLite answers to `SELECT :name AS alias, …`: one row with the bound values. A list fills one
column for each item, of which only the last has the alias.
-/

namespace Relmap.Sqlite

open Sql

/-- The columns of one output term: all but the last are named for their positions. No position is
a null column. -/
def termColumns (aliasName : String) : List Nat → List Cell → List (String × Cell)
  | [], _ => [(aliasName, .null)]
  | _, [] => [(aliasName, .null)]
  | [_], [cell] => [(aliasName, cell)]
  | position :: positions, cell :: cells =>
    ("?" ++ toString position, cell) :: termColumns aliasName positions cells

/-- A term whose placeholder is bound: its alias, its positions and its values. -/
structure BoundTerm where
  aliasName : String
  positions : List Nat
  values : List BoundValue

/-- Binds the placeholders of terms from left to right, after `taken` positions. -/
def bindTerms (params : List Parameter) (taken : Nat) :
    List (String × String) → Except Error (List BoundTerm)
  | [] => .ok []
  | (name, aliasName) :: rest => do
    let (positions, values) ← Sql.bind params taken name
    let rest ← bindTerms params (taken + values.length) rest
    pure (⟨aliasName, positions, values⟩ :: rest)

/-- The columns of a bound term. -/
def BoundTerm.columns (t : BoundTerm) : Except Error (List (String × Cell)) := do
  let cells ← t.values.mapM fun bound => Cell.bind bound.value
  pure (termColumns t.aliasName t.positions cells)

/-- The row of terms, each a placeholder with an alias. Without terms there is nothing to select. -/
def project (params : List Parameter) (terms : List (String × String)) :
    Except Error (List Row) := do
  let bound ← bindTerms params 0 terms
  if bound.isEmpty then .error (.driver "no tables specified" [])
  else
    let columns ← bound.mapM BoundTerm.columns
    pure [Keyed.ofList (columns.flatten.map fun column => (column.1, column.2.value))]

end Relmap.Sqlite
