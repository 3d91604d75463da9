import Relmap.Error.Basic

/-!
# Flavors

The dialects in which statements are written. They differ in their placeholders, in the escape
clause of a pattern and in what an offset without a limit needs.
-/

namespace Relmap.Sql

/-- A dialect. -/
inductive Flavor where
  /-- Placeholders keep their names. It is read by people and not run. -/
  | named
  | sqlite | postgresql | mysql
deriving DecidableEq, Repr

namespace Flavor

/-- The text of the value at a position. -/
def position : Flavor → Nat → Except Error String
  | .named, _ => .error (.internal .positionInNamedText)
  | .sqlite, n => .ok ("?" ++ toString n)
  | .postgresql, n => .ok ("$" ++ toString n)
  | .mysql, _ => .ok "?"

/-- The clause after a pattern. SQLite has no escape character of its own. -/
def escapeClause : Flavor → String
  | .sqlite => " ESCAPE '\\'"
  | _ => ""

/-- The limit that must stand in front of an offset when the query has none. -/
def limitForOffset : Flavor → String
  | .sqlite => " LIMIT -1"
  | .mysql => " LIMIT 18446744073709551615"
  | _ => ""

end Flavor
end Relmap.Sql
