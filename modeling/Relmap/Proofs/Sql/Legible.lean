import Relmap.Proofs.Sql.Binding
import Relmap.Proofs.Sql.Nodes
import Relmap.Proofs.Sql.Placeholders

/-!
# Legible expressions

An expression is legible if its compound conditions have operands and if it compares and tests
values, not conditions. Queries under construction are schematic: their nodes are read off the schema
alone, which makes them legible and free of marks.
-/

namespace Relmap.Sql

namespace Expr

mutual

/-- The expression stands for a value. -/
def isOperand : Expr → Bool
  | .column _ _ | .placeholder _ | .countRows | .count _ _ => true
  | .compound _ operands => isLoneOperand operands
  | _ => false

def isLoneOperand : List Expr → Bool
  | [operand] => operand.isOperand
  | _ => false

end

/-- What the expression itself compares or tests is a value. -/
def comparesOperands : Expr → Bool
  | .compare left _ right | .like left right => left.isOperand && right.isOperand
  | .inList _ subject _ | .inQuery subject _ | .isNull _ subject => subject.isOperand
  | _ => true

/-- What can be told of an expression itself, apart from those inside it: a compound condition has
operands, and what is compared or tested is a value. -/
def isLegible (e : Expr) : Bool :=
  match e with
  | .compound _ [] => false
  | e => e.comparesOperands

/-- A column, a count of one, or a relation between two. -/
def isSchematic : Expr → Bool
  | .column _ _ | .count _ (.column _ _) | .compare (.column _ _) _ (.column _ _) => true
  | _ => false

theorem isLegible_of_isSchematic {e : Expr} (schematic : e.isSchematic = true) :
    e.isLegible = true := by
  unfold isSchematic at schematic
  split at schematic <;> first | rfl | cases schematic

theorem fault?_of_isSchematic {params : List Parameter} {e : Expr}
    (schematic : e.isSchematic = true) : e.fault? params = none := by
  unfold isSchematic at schematic
  split at schematic <;> first | rfl | cases schematic

theorem isLegible_of_comparesOperands {params : List Parameter} {e : Expr}
    (faultless : e.fault? params = none) (compares : e.comparesOperands = true) :
    e.isLegible = true := by
  unfold isLegible
  split
  · cases faultless
  · exact compares

/-- A legible expression can be written if it is no placeholder or a bound one. -/
theorem fault?_of_isLegible {params : List Parameter} {e : Expr} (legible : e.isLegible = true)
    (bound : ∀ name, e.placeholder? = some name → ∃ p ∈ params, p.name = name) :
    e.fault? params = none := by
  cases e with
  | placeholder name =>
    obtain ⟨p, member, rfl⟩ := bound name rfl
    exact if_pos (List.any_eq_true.mpr ⟨p, member, beq_self_eq_true p.name⟩)
  | compound connective operands =>
    cases operands with
    | nil => cases legible
    | cons first rest => rfl
  | _ => rfl

/-- Every node of the expression is legible. -/
def Legible (e : Expr) : Prop := ∀ node ∈ e.nodes, node.isLegible = true

theorem schematic_of (table name : String) :
    ∀ node ∈ (Expr.of table name).nodes, node.isSchematic = true := by
  intro node isNode
  obtain rfl := List.mem_singleton.mp isNode
  rfl

theorem schematic_equal (table name other column : String) :
    ∀ node ∈ (Expr.equal (.of table name) (.of other column)).nodes, node.isSchematic = true := by
  intro node isNode
  rcases List.mem_cons.mp isNode with rfl | isNode
  · rfl
  · rcases List.mem_append.mp isNode with left | right
    · exact schematic_of table name node left
    · exact schematic_of other column node right

theorem filterMap_placeholder?_eq_nil {nodes : List Expr}
    (schematic : ∀ node ∈ nodes, node.isSchematic = true) :
    nodes.filterMap Expr.placeholder? = [] := by
  refine List.filterMap_eq_nil_iff.mpr fun node isNode => ?_
  have isSchematic := schematic node isNode
  cases node <;> first | rfl | cases isSchematic

end Expr

theorem mem_columnNodes {items : List SelectItem} {node : Expr} :
    node ∈ columnNodes items ↔ ∃ item ∈ items, node ∈ item.expr.nodes := by
  induction items with
  | nil => simp [columnNodes]
  | cons item rest ih =>
    obtain ⟨e, _⟩ := item
    simp [columnNodes, ih]

theorem mem_joinNodes {joins : List Join} {node : Expr} :
    node ∈ joinNodes joins ↔ ∃ join ∈ joins, node ∈ join.on.nodes := by
  induction joins with
  | nil => simp [joinNodes]
  | cons join rest ih =>
    obtain ⟨_, _, on⟩ := join
    simp [joinNodes, ih]

theorem mem_orderNodes {terms : List OrderTerm} {node : Expr} :
    node ∈ orderNodes terms ↔ ∃ term ∈ terms, node ∈ term.expr.nodes := by
  induction terms with
  | nil => simp [orderNodes]
  | cons term rest ih =>
    obtain ⟨e, _⟩ := term
    simp [orderNodes, ih]

namespace Select

theorem mem_nodes {q : Select} {node : Expr} :
    node ∈ q.nodes ↔ (∃ item ∈ q.columns, node ∈ item.expr.nodes) ∨
      (∃ join ∈ q.joins, node ∈ join.on.nodes) ∨ (∃ e ∈ q.filter, node ∈ e.nodes) ∨
      ∃ term ∈ q.order, node ∈ term.expr.nodes := by
  obtain ⟨columns, source, joins, filter, order, limit, offset⟩ := q
  simp only [nodes, List.mem_append, mem_columnNodes, mem_joinNodes, mem_nodesOfAll,
    mem_orderNodes, or_assoc]

theorem mem_nodes_where {q : Select} {e node : Expr} :
    node ∈ (q.where e).nodes ↔ node ∈ q.nodes ∨ node ∈ e.nodes := by
  have filters : (∃ f ∈ (q.where e).filter, node ∈ f.nodes) ↔
      (∃ f ∈ q.filter, node ∈ f.nodes) ∨ node ∈ e.nodes := by
    simp [Select.where, or_and_right, exists_or]
  rw [mem_nodes, mem_nodes, filters]
  simp only [Select.where, or_assoc, or_left_comm, or_comm]

/-- Every node of the query is read off the schema. -/
def Schematic (q : Select) : Prop := ∀ node ∈ q.nodes, node.isSchematic = true

theorem schematic_empty : empty.Schematic := nofun

theorem schematic_iff {q : Select} :
    q.Schematic ↔ (∀ item ∈ q.columns, ∀ node ∈ item.expr.nodes, node.isSchematic = true) ∧
      (∀ join ∈ q.joins, ∀ node ∈ join.on.nodes, node.isSchematic = true) ∧
      (∀ e ∈ q.filter, ∀ node ∈ e.nodes, node.isSchematic = true) ∧
      ∀ term ∈ q.order, ∀ node ∈ term.expr.nodes, node.isSchematic = true := by
  simp only [Schematic, mem_nodes, or_imp, forall_and, forall_exists_index, and_imp]
  grind

namespace Schematic

variable {q : Select}

theorem addJoin (schematic : q.Schematic) {join : Join}
    (on : ∀ node ∈ join.on.nodes, node.isSchematic = true) : (q.addJoin join).Schematic := by
  obtain ⟨columns, joins, filter, order⟩ := schematic_iff.mp schematic
  refine schematic_iff.mpr ⟨columns, fun other member => ?_, filter, order⟩
  rcases List.mem_append.mp member with before | here
  · exact joins other before
  · exact List.mem_singleton.mp here ▸ on

/-- Replacing the output of a schematic query by a column keeps it schematic. -/
theorem reading (schematic : q.Schematic) (table aliasName column : String) :
    ((q.select [.of aliasName column]).from table aliasName).Schematic := by
  obtain ⟨-, joins, filter, order⟩ := schematic_iff.mp schematic
  refine schematic_iff.mpr ⟨fun item member => ?_, joins, filter, order⟩
  obtain rfl := List.mem_singleton.mp member
  exact Expr.schematic_of aliasName column

theorem «where» (schematic : q.Schematic) {e : Expr}
    (condition : ∀ node ∈ e.nodes, node.isSchematic = true) : (q.where e).Schematic :=
  fun node isNode => (mem_nodes_where.mp isNode).elim (schematic node) (condition node)

theorem orderBy (schematic : q.Schematic) {e : Expr}
    (ordered : ∀ node ∈ e.nodes, node.isSchematic = true) (direction : Direction) :
    (q.orderBy e direction).Schematic := by
  obtain ⟨columns, joins, filter, order⟩ := schematic_iff.mp schematic
  refine schematic_iff.mpr ⟨columns, joins, filter, fun term member => ?_⟩
  rcases List.mem_append.mp member with before | here
  · exact order term before
  · exact List.mem_singleton.mp here ▸ ordered

theorem placeholders_eq_nil (schematic : q.Schematic) : q.placeholders = [] :=
  q.placeholders_eq.trans (Expr.filterMap_placeholder?_eq_nil schematic)

/-- A condition on a schematic query brings all placeholders of the whole. -/
theorem placeholders_where (schematic : q.Schematic) (e : Expr) :
    (q.where e).placeholders = e.placeholders := by
  have none := schematic.placeholders_eq_nil
  obtain ⟨columns, source, joins, filter, order, limit, offset⟩ := q
  simp only [Select.placeholders, List.append_eq_nil_iff] at none
  obtain ⟨⟨⟨columns, joins⟩, filter⟩, order⟩ := none
  simp [Select.where, Select.placeholders, placeholdersAll_append, placeholdersAll, columns, joins,
    filter, order]

end Schematic
end Select
end Relmap.Sql
