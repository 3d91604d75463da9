import Relmap.Compile.Path

/-!
# Walks

A walk compiles criteria from left to right. It carries the query that joins are added to and the
parameters so far, and keeps both when a comparison fails.
-/

namespace Relmap

open Sql

/-- The query and the parameters of a walk. -/
structure Walk where
  query : Select
  params : List Parameter

/-- What a part of a walk yields, and the walk after it. -/
abbrev Walked (α : Type) := Except Error α × Walk

/-- Applies a function to what was yielded. -/
def Walked.map {α β : Type} (f : α → β) (r : Walked α) : Walked β := (r.1.map f, r.2)

namespace Walk

def start : Walk := ⟨.empty, []⟩

/-- Takes over a compiled comparison. -/
def take (w : Walk) : Except Error Compared → Walked Expr
  | .ok compared =>
    (.ok compared.condition, { w with params := w.params ++ compared.parameter.toList })
  | .error e => (.error e, w)

/-- Compiles one comparison of a column or of a path. -/
def comparison (s : Scope) (field : String) (op : Operator) (value : Value) (w : Walk) :
    Walked Expr :=
  if isPath field then
    match s.resolvePath field with
    | .error e => (.error e, w)
    | .ok path =>
      { w with query := joinOuter s.aliasName path.steps w.query }.take
        (path.compare w.params.length op value)
  else w.take (s.compareReached w.params.length field op value)

mutual

/-- Compiles a tree of comparisons. -/
def expression (s : Scope) : Expression → Walk → Walked Expr
  | .comparison field op value, w => w.comparison s field op value
  | .composite .and [], w => (.error (.statement (.noOperands .and)), w)
  | .composite .and operands, w => (operandsOf s operands w).map (.compound .and)
  | .composite .or [], w => (.error (.statement (.noOperands .or)), w)
  | .composite .or operands, w => (operandsOf s operands w).map (.compound .or)
  | .composite .not [operand], w => (expression s operand w).map .not
  | .composite .not operands, w => (.error (.statement (.operandCount operands.length)), w)

/-- Compiles operands from left to right, up to the first that fails. -/
def operandsOf (s : Scope) : List Expression → Walk → Walked (List Expr)
  | [], w => (.ok [], w)
  | e :: rest, w =>
    match expression s e w with
    | (.error e, w) => (.error e, w)
    | (.ok condition, w) => (operandsOf s rest w).map (condition :: ·)

end

/-- Compiles an entry of a map of criteria. -/
def criterion (s : Scope) (field : String) (c : Criterion) (w : Walk) : Walked Expr :=
  match c with
  | .value value => w.comparison s field .eq value
  | .expression e => expression s e w

/-- Compiles entries from left to right, up to the first that fails. -/
def entries (s : Scope) : Keyed Criterion → Walk → Walked (List Expr)
  | [], w => (.ok [], w)
  | (field, c) :: rest, w =>
    match w.criterion s field c with
    | (.error e, w) => (.error e, w)
    | (.ok condition, w) => (entries s rest w).map (condition :: ·)

/-- Compiles criteria. A map without entries is no condition at all. -/
def criteria (s : Scope) (c : Criteria) (w : Walk) : Walked (Option Expr) :=
  match c with
  | .expression e => (expression s e w).map some
  | .fields [] => (.ok none, w)
  | .fields fields => (entries s fields w).map fun conditions => some (.all conditions)

end Walk

/-- The scope of a table under an alias. -/
def Registry.scope (r : Registry) (table aliasName : String) : Except Error Scope :=
  (r.forTable table).map fun m => ⟨r, m, aliasName⟩

end Relmap
