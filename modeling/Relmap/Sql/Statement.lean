import Relmap.Sql.Expr

/-!
# Statements

The statements that a database runs, and the placeholders that they mention.
-/

namespace Relmap.Sql

/-- A statement. The conditions of a filter are all to hold; no condition means every row. -/
inductive Statement where
  | query (select : Select)
  | insert (table : String) (values : List (String × Expr))
  | update (table : String) (assignments : List (String × Expr)) (filter : List Expr)
  | delete (table : String) (filter : List Expr)

mutual

/-- The names of the placeholders of an expression, from left to right. -/
def Expr.placeholders : Expr → List String
  | .compound _ operands => placeholdersAll operands
  | .not operand => operand.placeholders
  | .compare left _ right => left.placeholders ++ right.placeholders
  | .column _ _ => []
  | .placeholder name => [name]
  | .inList _ subject list => subject.placeholders ++ list.placeholders
  | .inQuery subject query => subject.placeholders ++ query.placeholders
  | .isNull _ subject => subject.placeholders
  | .like subject pattern => subject.placeholders ++ pattern.placeholders
  | .countRows => []
  | .count _ argument => argument.placeholders

/-- The names of the placeholders of several expressions. -/
def placeholdersAll : List Expr → List String
  | [] => []
  | e :: rest => e.placeholders ++ placeholdersAll rest

/-- The names of the placeholders of a query: of the output columns, the joins, the filter and the
order. -/
def Select.placeholders : Select → List String
  | ⟨columns, _, joins, filter, order, _, _⟩ =>
    columnPlaceholders columns ++ joinPlaceholders joins ++ placeholdersAll filter
      ++ orderPlaceholders order

def columnPlaceholders : List SelectItem → List String
  | [] => []
  | ⟨e, _⟩ :: rest => e.placeholders ++ columnPlaceholders rest

def joinPlaceholders : List Join → List String
  | [] => []
  | ⟨_, _, e⟩ :: rest => e.placeholders ++ joinPlaceholders rest

def orderPlaceholders : List OrderTerm → List String
  | [] => []
  | ⟨e, _⟩ :: rest => e.placeholders ++ orderPlaceholders rest

end

/-- The names of the placeholders of a statement. -/
def Statement.placeholders : Statement → List String
  | .query select => select.placeholders
  | .insert _ values => placeholdersAll (values.map (·.2))
  | .update _ assignments filter =>
    placeholdersAll (assignments.map (·.2)) ++ placeholdersAll filter
  | .delete _ filter => placeholdersAll filter

/-- The statement reads and changes nothing. -/
def Statement.isQuery : Statement → Bool
  | .query _ => true
  | _ => false

end Relmap.Sql
