/-!
# Operators of criteria

The comparison operators and the boolean combinators in which selection criteria are written, with
their names.
-/

namespace Relmap

/-- How a field is compared with a value. -/
inductive Operator where
  | eq | neq | isIn | notIn | gt | gte | lt | lte | contains | startsWith | endsWith
  /-- The same as `eq`; it reads better against null. -/
  | is
deriving DecidableEq, Repr

namespace Operator

/-- All operators. -/
def all : List Operator :=
  [.eq, .neq, .isIn, .notIn, .gt, .gte, .lt, .lte, .contains, .startsWith, .endsWith, .is]

def name : Operator → String
  | .eq => "EQ"
  | .neq => "NEQ"
  | .isIn => "IN"
  | .notIn => "NIN"
  | .gt => "GT"
  | .gte => "GTE"
  | .lt => "LT"
  | .lte => "LTE"
  | .contains => "CONTAINS"
  | .startsWith => "STARTS_WITH"
  | .endsWith => "ENDS_WITH"
  | .is => "IS"

/-- The signs that stand for an operator beside its name. -/
def symbols : Operator → List String
  | .eq => ["="]
  | .neq => ["<>", "!="]
  | .gt => [">"]
  | .gte => [">="]
  | .lt => ["<"]
  | .lte => ["<="]
  | _ => []

/-- The operator with the given name or sign. -/
def named? (s : String) : Option Operator :=
  all.find? fun op => op.name == s || op.symbols.contains s

/-- The operators that compare with a pattern. -/
def isPattern : Operator → Bool
  | .contains | .startsWith | .endsWith => true
  | _ => false

theorem named?_name (op : Operator) : named? op.name = some op := by
  cases op <;> decide

example : named? "!=" = some .neq ∧ named? "eq" = none := by decide

end Operator

/-- How the operands of a composite expression are combined. -/
inductive Composite where
  | and | or | not
deriving DecidableEq, Repr

namespace Composite

/-- All combinators. -/
def all : List Composite := [.and, .or, .not]

def name : Composite → String
  | .and => "AND"
  | .or => "OR"
  | .not => "NOT"

/-- The combinator with the given name. -/
def named? (s : String) : Option Composite := all.find? fun kind => kind.name == s

theorem named?_name (kind : Composite) : named? kind.name = some kind := by
  cases kind <;> decide

end Composite
end Relmap
