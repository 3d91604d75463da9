import Relmap.Error.Basic
import Relmap.Keyed

/-!
# Criteria

What an application asks for: a boolean tree of comparisons, or a map from fields to values, all of
which are to hold. A field may be a path of relationships that ends in a column.
-/

namespace Relmap

/-- A boolean tree of comparisons. -/
inductive Expression where
  | comparison (field : String) (op : Operator) (value : Value)
  | composite (kind : Composite) (operands : List Expression)

/-- An entry of a map of criteria: a value to compare the field with, or an expression for which the
key is only a name. -/
inductive Criterion where
  | value (value : Value)
  | expression (expression : Expression)

/-- Criteria for rows. -/
inductive Criteria where
  | fields (entries : Keyed Criterion)
  | expression (expression : Expression)

/-- The field is a path of relationships. -/
def isPath (field : String) : Bool := field.toList.contains '.'

mutual

/-- The number of comparisons in a tree. -/
def Expression.leafCount : Expression → Nat
  | .comparison _ _ _ => 1
  | .composite _ operands => Expression.leafCounts operands

/-- The number of comparisons in several trees. -/
def Expression.leafCounts : List Expression → Nat
  | [] => 0
  | e :: rest => e.leafCount + Expression.leafCounts rest

end

/-- The operator with the given name or sign. -/
def Operator.ofText (s : String) : Except Error Operator :=
  match Operator.named? s with
  | some op => .ok op
  | none => .error (.internal (.unknownOperator s))

/-- The combinator with the given name. -/
def Composite.ofText (s : String) : Except Error Composite :=
  match Composite.named? s with
  | some kind => .ok kind
  | none => .error (.internal (.unknownComposite s))

namespace Criteria

/-- Criteria that every row meets. -/
def all : Criteria := .fields []

/-- The criteria as a map, in which an expression becomes the first entry. -/
def entries : Criteria → Keyed Criterion
  | .fields entries => entries
  | .expression e => [("0", .expression e)]

/-- Adds a value for a field. -/
def and (c : Criteria) (field : String) (value : Value) : Criteria :=
  .fields (c.entries.insert field (.value value))

/-- Adds an expression under a key. -/
def andExpression (c : Criteria) (key : String) (e : Expression) : Criteria :=
  .fields (c.entries.insert key (.expression e))

/-- A value for one field. -/
def ofField (field : String) (value : Value) : Criteria := all.and field value

/-- A value for every column of a row. -/
def ofRow (row : Row) : Criteria := .fields (row.mapValues .value)

def isEmpty : Criteria → Bool
  | .fields entries => entries.isEmpty
  | .expression _ => false

end Criteria
end Relmap
