import Relmap.Sql.Statement

/-!
# Fragments

A statement as the sequence of its parts in written order: fixed text, and the places that a flavor
or the parameters decide.
-/

namespace Relmap.Sql

/-- A part of a written statement. -/
inductive Fragment where
  | text (s : String)
  | placeholder (name : String)
  /-- The end of a pattern, where a flavor may want an escape clause. -/
  | patternEnd
  /-- The place in front of an offset that has no limit. -/
  | bareOffset
  /-- A compound condition without operands. -/
  | missingOperands (connective : Connective)
deriving DecidableEq, Repr

/-- Puts a separator between the parts. -/
def separated (separator : String) : List (List Fragment) → List Fragment
  | [] => []
  | [part] => part
  | part :: rest => part ++ .text separator :: separated separator rest

/-- Operands of a connective: one stands bare, several stand in parentheses. -/
def operandFragments (connective : Connective) : List (List Fragment) → List Fragment
  | [] => [.missingOperands connective]
  | [operand] => operand
  | operands =>
    separated (" " ++ connective.keyword ++ " ")
      (operands.map fun operand => .text "(" :: operand ++ [.text ")"])

/-- A `WHERE` clause, unless there is no condition. -/
def filterFragments (conditions : List (List Fragment)) : List Fragment :=
  if conditions.isEmpty then [] else .text " WHERE " :: operandFragments .and conditions

/-- A table, with its alias if that is another name. -/
def TableRef.fragments (t : TableRef) : List Fragment :=
  .text t.table :: if t.aliasName = t.table then [] else [.text " ", .text t.aliasName]

def JoinKind.text : JoinKind → String
  | .inner => " INNER JOIN "
  | .left => " LEFT JOIN "

/-- The limit and the offset of a query. -/
def pageFragments (limit offset : Option Nat) : List Fragment :=
  (match limit, offset with
    | some n, _ => [.text " LIMIT ", .text (toString n)]
    | none, some _ => [.bareOffset]
    | none, none => [])
  ++ match offset with
    | some n => [.text " OFFSET ", .text (toString n)]
    | none => []

mutual

/-- The parts of an expression. -/
def Expr.fragments : Expr → List Fragment
  | .compound connective operands => operandFragments connective (fragmentsEach operands)
  | .not operand => .text "NOT(" :: operand.fragments ++ [.text ")"]
  | .compare left relation right =>
    left.fragments ++ [.text " ", .text relation.symbol, .text " "] ++ right.fragments
  | .column (some table) name => [.text table, .text ".", .text name]
  | .column none name => [.text name]
  | .placeholder name => [.placeholder name]
  | .inList negated subject list =>
    subject.fragments ++ .text (if negated then " NOT IN (" else " IN (") :: list.fragments
      ++ [.text ")"]
  | .inQuery subject query =>
    subject.fragments ++ .text " IN (" :: query.fragments ++ [.text ")"]
  | .isNull negated subject =>
    subject.fragments ++ [.text (if negated then " IS NOT NULL" else " IS NULL")]
  | .like subject pattern =>
    subject.fragments ++ .text " LIKE " :: pattern.fragments ++ [.patternEnd]
  | .countRows => [.text "COUNT(*)"]
  | .count distinct argument =>
    .text (if distinct then "COUNT(DISTINCT " else "COUNT(") :: argument.fragments ++ [.text ")"]

/-- The parts of several expressions, each on its own. -/
def fragmentsEach : List Expr → List (List Fragment)
  | [] => []
  | e :: rest => e.fragments :: fragmentsEach rest

/-- The parts of a query. -/
def Select.fragments : Select → List Fragment
  | ⟨columns, source, joins, filter, order, limit, offset⟩ =>
    .text "SELECT "
      :: (if columns.isEmpty then [.text "*"] else separated ", " (columnFragments columns))
      ++ (match source with
        | some table => .text " FROM " :: table.fragments
        | none => [])
      ++ joinFragments joins
      ++ filterFragments (fragmentsEach filter)
      ++ (if order.isEmpty then [] else .text " ORDER BY " :: separated ", " (orderFragments order))
      ++ pageFragments limit offset

def columnFragments : List SelectItem → List (List Fragment)
  | [] => []
  | ⟨e, some aliasName⟩ :: rest =>
    (e.fragments ++ [.text " AS ", .text aliasName]) :: columnFragments rest
  | ⟨e, none⟩ :: rest => e.fragments :: columnFragments rest

def joinFragments : List Join → List Fragment
  | [] => []
  | ⟨kind, target, on⟩ :: rest =>
    .text kind.text :: target.fragments ++ .text " ON " :: on.fragments ++ joinFragments rest

def orderFragments : List OrderTerm → List (List Fragment)
  | [] => []
  | ⟨e, direction⟩ :: rest =>
    (e.fragments ++ [.text " ", .text direction.keyword]) :: orderFragments rest

end

/-- An assignment of a value to a column. -/
def assignmentFragments (assignment : String × Expr) : List Fragment :=
  .text assignment.1 :: .text " = " :: assignment.2.fragments

/-- The parts of a statement. -/
def Statement.fragments : Statement → List Fragment
  | .query select => select.fragments
  | .insert table values =>
    .text "INSERT INTO " :: .text table :: .text " ("
      :: separated ", " (values.map fun value => [.text value.1])
      ++ .text ") VALUES (" :: separated ", " (fragmentsEach (values.map (·.2)))
      ++ [.text ")"]
  | .update table assignments filter =>
    .text "UPDATE " :: .text table :: .text " SET "
      :: separated ", " (assignments.map assignmentFragments)
      ++ filterFragments (fragmentsEach filter)
  | .delete table filter =>
    .text "DELETE FROM " :: .text table :: filterFragments (fragmentsEach filter)

end Relmap.Sql
