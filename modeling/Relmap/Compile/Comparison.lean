import Relmap.Criteria.Basic
import Relmap.Schema.Resolution
import Relmap.Sql.Parameter
import Relmap.Sql.Statement

/-!
# Comparisons

A comparison of one column with a value becomes a condition on a placeholder, which takes the name
of the field and the number of parameters before it. Tests against null need no parameter.
-/

namespace Relmap

open Sql

/-- A compiled comparison and the parameter that it needs. -/
structure Compared where
  condition : Expr
  parameter : Option Parameter

/-- The text with a backslash before every character that a pattern gives a meaning. -/
def escapePattern (s : String) : String :=
  String.ofList (s.toList.flatMap fun c =>
    if c == '%' || c == '_' || c == '\\' then ['\\', c] else [c])

/-- The pattern that texts in the given relation to `s` match. -/
def patternOf (op : Operator) (s : String) : String :=
  match op with
  | .startsWith => escapePattern s ++ "%"
  | .endsWith => "%" ++ escapePattern s
  | _ => "%" ++ escapePattern s ++ "%"

/-- The name of the parameter that has `n` parameters before it. -/
def parameterName (field : String) (n : Nat) : String := field ++ "_" ++ toString n

/-- Compares with a value of the column's type. -/
def comparedBy (condition : Expr → Expr) (field : String) (n : Nat) (value : Value)
    (type : ColumnType) : Compared :=
  ⟨condition (.placeholder (parameterName field n)), some ⟨parameterName field n, value, type⟩⟩

/-- Compares with a pattern, which is bound as text whatever the type of the column. -/
def comparedByPattern (column : Expr) (field : String) (n : Nat) (op : Operator) (value : Value) :
    Except Error Compared :=
  match value with
  | .text s => .ok (comparedBy (.like column) field n (.text (patternOf op s)) .string)
  | _ => .error (.statement (.textRequired op field value.kind.name))

/-- Compares a column with a value. Null becomes a null test and a list a membership test where the
operator asks for equality. -/
def compareColumn (column : Expr) (field : String) (n : Nat) (op : Operator) (value : Value)
    (type : ColumnType) : Except Error Compared :=
  let bound (condition : Expr → Expr) : Except Error Compared :=
    .ok (comparedBy condition field n value type)
  match op, value with
  | .eq, .null | .is, .null => .ok ⟨.isNull false column, none⟩
  | .neq, .null => .ok ⟨.isNull true column, none⟩
  | .isIn, _ | .eq, .list _ | .is, .list _ => bound (.inList false column)
  | .notIn, _ | .neq, .list _ => bound (.inList true column)
  | .eq, _ | .is, _ => bound (.compare column .eq)
  | .neq, _ => bound (.compare column .ne)
  | .gt, _ => bound (.compare column .gt)
  | .gte, _ => bound (.compare column .ge)
  | .lt, _ => bound (.compare column .lt)
  | .lte, _ => bound (.compare column .le)
  | .contains, _ | .startsWith, _ | .endsWith, _ => comparedByPattern column field n op value

/-- The table that criteria are compiled against, and its alias in the query. -/
structure Scope where
  registry : Registry
  metadata : Metadata
  aliasName : String

/-- The name of the translation table inside a sub-select. -/
def translationAlias : String := "translation"

/-- The name under which a subclass stores a column that is reached through a discriminator. -/
def storedColumn (discriminator : String) (child : Metadata) (column : String) : String :=
  let lead := (prefixedColumn discriminator "").toList
  if child.hasColumn column then column
  else if lead.isPrefixOf column.toList then String.ofList (column.toList.drop lead.length)
  else column

namespace Scope

/-- Compares a column of the translation in a sub-select that is matched with the identifier. -/
def compareTranslated (s : Scope) (field : String) (n : Nat) (op : Operator) (value : Value)
    (type : ColumnType) : Except Error Compared := do
  let translation ← s.registry.translationOf s.metadata
  let translatableId ← translation.translatableIdColumn
  let identifier ← s.metadata.identifierColumn
  let compared ← compareColumn (.of translationAlias field) field n op value type
  let link := Expr.equal (.of translationAlias translatableId) (.of s.aliasName identifier)
  let query := ((Select.empty.select [.of translationAlias translatableId]).from
    translation.table translationAlias).where link
  pure { compared with
    condition := .inQuery (.of s.aliasName identifier) (query.where compared.condition) }

/-- Compares a column of the subclass with the given table. -/
def compareInherited (s : Scope) (table field : String) (n : Nat) (op : Operator) (value : Value)
    (type : ColumnType) : Except Error Compared :=
  match (s.registry.subclassesOf s.metadata).find? fun child => child.2.table == table with
  | some (discriminator, child) =>
    compareColumn (.of child.table (storedColumn discriminator child field)) field n op value type
  | none => .error (.internal (.undeclaredColumn field))

/-- Compares a column that the table reaches with a value, after `n` parameters. -/
def compareReached (s : Scope) (n : Nat) (field : String) (op : Operator) (value : Value) :
    Except Error Compared :=
  match s.registry.resolve s.metadata field with
  | .error e => .error e
  | .ok ⟨type, .direct⟩ => compareColumn (.of s.aliasName field) field n op value type
  | .ok ⟨type, .translation _⟩ => s.compareTranslated field n op value type
  | .ok ⟨type, .inherited table⟩ => s.compareInherited table field n op value type

end Scope
end Relmap
