import Relmap.Sql.Statement

/-!
# Placeholders of queries under construction

Joins and conditions are added to a query at the end of their part, so what they mention comes after
what that part has mentioned before.
-/

namespace Relmap.Sql

theorem placeholdersAll_append (left right : List Expr) :
    placeholdersAll (left ++ right) = placeholdersAll left ++ placeholdersAll right := by
  induction left with
  | nil => rfl
  | cons e rest ih => simp [placeholdersAll, ih]

theorem joinPlaceholders_append (left right : List Join) :
    joinPlaceholders (left ++ right) = joinPlaceholders left ++ joinPlaceholders right := by
  induction left with
  | nil => rfl
  | cons join rest ih =>
    obtain ⟨kind, target, on⟩ := join
    simp [joinPlaceholders, ih]

@[simp] theorem Expr.placeholders_of (table name : String) :
    (Expr.of table name).placeholders = [] := by
  simp [Expr.of, Expr.placeholders]

@[simp] theorem Expr.placeholders_equal (left right : Expr) :
    (Expr.equal left right).placeholders = left.placeholders ++ right.placeholders := by
  simp [Expr.equal, Expr.placeholders]

namespace Select

/-- The query has no order and mentions no placeholder. -/
structure IsBare (q : Select) : Prop where
  order : q.order = []
  placeholders : q.placeholders = []

theorem isBare_empty : empty.IsBare := ⟨rfl, rfl⟩

theorem IsBare.addJoin {q : Select} {join : Join} (bare : q.IsBare)
    (on : join.on.placeholders = []) : (q.addJoin join).IsBare := by
  obtain ⟨columns, source, joins, filter, order, limit, offset⟩ := q
  obtain ⟨kind, target, condition⟩ := join
  obtain ⟨unordered, none⟩ := bare
  refine ⟨unordered, ?_⟩
  simp only [Select.placeholders, List.append_eq_nil_iff] at none
  simp_all [Select.addJoin, Select.placeholders, joinPlaceholders_append, joinPlaceholders]

/-- Replacing the output of a bare query by a column keeps it bare. -/
theorem IsBare.reading {q : Select} (bare : q.IsBare) (table aliasName column : String) :
    ((q.select [.of aliasName column]).from table aliasName).IsBare := by
  obtain ⟨columns, source, joins, filter, order, limit, offset⟩ := q
  obtain ⟨unordered, none⟩ := bare
  refine ⟨unordered, ?_⟩
  simp only [Select.placeholders, List.append_eq_nil_iff] at none
  simp_all [Select.from, Select.select, Select.placeholders, columnPlaceholders]

/-- A condition that is added to a query without an order comes after its placeholders. -/
theorem placeholders_where {q : Select} (unordered : q.order = []) (e : Expr) :
    (q.where e).placeholders = q.placeholders ++ e.placeholders := by
  obtain ⟨columns, source, joins, filter, order, limit, offset⟩ := q
  obtain rfl : order = [] := unordered
  simp [Select.where, Select.placeholders, placeholdersAll_append, placeholdersAll,
    orderPlaceholders]

end Select
end Relmap.Sql
