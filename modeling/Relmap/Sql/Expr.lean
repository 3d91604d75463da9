/-!
# Expressions and queries

The trees of SQL expressions and of `SELECT` queries, which contain each other. Values stand in them
as named placeholders.
-/

namespace Relmap.Sql

/-- A binary combinator of conditions. -/
inductive Connective where
  | and | or
deriving DecidableEq, Repr

def Connective.keyword : Connective → String
  | .and => "AND"
  | .or => "OR"

/-- A relation between two operands. -/
inductive Relation where
  | eq | ne | gt | ge | lt | le
deriving DecidableEq, Repr

def Relation.symbol : Relation → String
  | .eq => "="
  | .ne => "<>"
  | .gt => ">"
  | .ge => ">="
  | .lt => "<"
  | .le => "<="

inductive JoinKind where
  | inner | left
deriving DecidableEq, Repr

inductive Direction where
  | ascending | descending
deriving DecidableEq, Repr

def Direction.keyword : Direction → String
  | .ascending => "ASC"
  | .descending => "DESC"

/-- A table and the name by which a query refers to it. -/
structure TableRef where
  table : String
  aliasName : String
deriving DecidableEq, Repr

mutual

/-- An SQL expression. -/
inductive Expr where
  /-- All operands, or some operand, hold. -/
  | compound (connective : Connective) (operands : List Expr)
  | not (operand : Expr)
  | compare (left : Expr) (relation : Relation) (right : Expr)
  /-- A column, of the named table if one is given. -/
  | column (table : Option String) (name : String)
  /-- The place of a bound value. -/
  | placeholder (name : String)
  /-- Membership in a list, most often a placeholder that is bound to a list. -/
  | inList (negated : Bool) (subject list : Expr)
  | inQuery (subject : Expr) (query : Select)
  | isNull (negated : Bool) (subject : Expr)
  /-- Agreement with a pattern in which a backslash escapes. -/
  | like (subject pattern : Expr)
  | countRows
  | count (distinct : Bool) (argument : Expr)

/-- An output column of a query. -/
structure SelectItem where
  expr : Expr
  aliasName : Option String

/-- A table joined to a query. -/
structure Join where
  kind : JoinKind
  target : TableRef
  on : Expr

structure OrderTerm where
  expr : Expr
  direction : Direction

/-- A query. The conditions of the filter are all to hold. -/
structure Select where
  columns : List SelectItem
  source : Option TableRef
  joins : List Join
  filter : List Expr
  order : List OrderTerm
  limit : Option Nat
  offset : Option Nat

end

namespace Expr

/-- A column of the named table. -/
def of (table name : String) : Expr := .column (some table) name

/-- A column without a table. -/
def bare (name : String) : Expr := .column none name

/-- Two operands are equal. -/
def equal (left right : Expr) : Expr := .compare left .eq right

/-- All operands hold. -/
def all (operands : List Expr) : Expr := .compound .and operands

end Expr

namespace Select

/-- The query with nothing in it. -/
def empty : Select := ⟨[], none, [], [], [], none, none⟩

/-- Replaces the output columns. -/
def select (q : Select) (exprs : List Expr) : Select :=
  { q with columns := exprs.map fun e => ⟨e, none⟩ }

/-- Adds an output column. -/
def addColumn (q : Select) (e : Expr) (aliasName : Option String) : Select :=
  { q with columns := q.columns ++ [⟨e, aliasName⟩] }

def hasColumns (q : Select) : Bool := !q.columns.isEmpty

/-- Replaces the source. -/
def «from» (q : Select) (table aliasName : String) : Select :=
  { q with source := some ⟨table, aliasName⟩ }

def addJoin (q : Select) (join : Join) : Select := { q with joins := q.joins ++ [join] }

def leftJoin (q : Select) (table aliasName : String) (on : Expr) : Select :=
  q.addJoin ⟨.left, ⟨table, aliasName⟩, on⟩

def innerJoin (q : Select) (table aliasName : String) (on : Expr) : Select :=
  q.addJoin ⟨.inner, ⟨table, aliasName⟩, on⟩

/-- A join exposes the alias. -/
def isJoined (q : Select) (aliasName : String) : Bool :=
  q.joins.any fun join => join.target.aliasName == aliasName

/-- Adds a condition to the filter. -/
def «where» (q : Select) (e : Expr) : Select := { q with filter := q.filter ++ [e] }

def orderBy (q : Select) (e : Expr) (direction : Direction) : Select :=
  { q with order := q.order ++ [⟨e, direction⟩] }

def withLimit (q : Select) (limit : Option Nat) : Select := { q with limit }

def withOffset (q : Select) (offset : Option Nat) : Select := { q with offset }

end Select
end Relmap.Sql
