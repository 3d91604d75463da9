import Relmap.Sql.Expr

/-!
# Names in scope

A query refers to tables by the names of its source and of its joins. These names are to be
distinct, and every column is to be of a table that is named in its own query or in one around it.
-/

namespace Relmap.Sql

/-- The names under which a query knows the tables of its source and of its joins. -/
def Select.names (q : Select) : List String :=
  q.source.toList.map (·.aliasName) ++ q.joins.map (·.target.aliasName)

mutual

/-- Every column is of a table with a visible name, or of one that a query inside names. -/
inductive Expr.Scoped : List String → Expr → Prop
  | compound {visible : List String} {connective : Connective} {operands : List Expr} :
      (∀ e ∈ operands, Expr.Scoped visible e) → Expr.Scoped visible (.compound connective operands)
  | not {visible : List String} {operand : Expr} :
      Expr.Scoped visible operand → Expr.Scoped visible (.not operand)
  | compare {visible : List String} {left right : Expr} {relation : Relation} :
      Expr.Scoped visible left → Expr.Scoped visible right →
      Expr.Scoped visible (.compare left relation right)
  | column {visible : List String} {table name : String} :
      table ∈ visible → Expr.Scoped visible (.column (some table) name)
  | placeholder {visible : List String} {name : String} : Expr.Scoped visible (.placeholder name)
  | inList {visible : List String} {negated : Bool} {subject list : Expr} :
      Expr.Scoped visible subject → Expr.Scoped visible list →
      Expr.Scoped visible (.inList negated subject list)
  | inQuery {visible : List String} {subject : Expr} {query : Select} :
      Expr.Scoped visible subject → Select.Scoped visible query →
      Expr.Scoped visible (.inQuery subject query)
  | isNull {visible : List String} {negated : Bool} {subject : Expr} :
      Expr.Scoped visible subject → Expr.Scoped visible (.isNull negated subject)
  | like {visible : List String} {subject pattern : Expr} :
      Expr.Scoped visible subject → Expr.Scoped visible pattern →
      Expr.Scoped visible (.like subject pattern)
  | countRows {visible : List String} : Expr.Scoped visible .countRows
  | count {visible : List String} {distinct : Bool} {argument : Expr} :
      Expr.Scoped visible argument → Expr.Scoped visible (.count distinct argument)

/-- The names of a query are distinct, and its columns are of tables with these names or with names
that are visible around it. -/
inductive Select.Scoped : List String → Select → Prop
  | level {outer : List String} {q : Select} :
      q.names.Nodup →
      (∀ item ∈ q.columns, Expr.Scoped (q.names ++ outer) item.expr) →
      (∀ join ∈ q.joins, Expr.Scoped (q.names ++ outer) join.on) →
      (∀ e ∈ q.filter, Expr.Scoped (q.names ++ outer) e) →
      (∀ term ∈ q.order, Expr.Scoped (q.names ++ outer) term.expr) →
      Select.Scoped outer q

end

theorem Expr.scoped_of {visible : List String} {table name : String} (seen : table ∈ visible) :
    (Expr.of table name).Scoped visible := .column seen

theorem Expr.scoped_equal {visible : List String} {table name other column : String}
    (seen : table ∈ visible) (seen' : other ∈ visible) :
    (Expr.equal (.of table name) (.of other column)).Scoped visible :=
  .compare (.column seen) (.column seen')

end Relmap.Sql
