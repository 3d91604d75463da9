import Relmap.Sql.Render

/-!
# Nodes of a statement

Every expression of a statement, in the order in which the statement is written. The placeholders
are among the nodes, and so is what makes rendering fail: a placeholder without a parameter, and a
compound condition without operands. Main statements: the placeholders are found among the nodes in
their order, and what is written of a statement that is not fixed text comes from its nodes in
their order.
-/

namespace Relmap.Sql

mutual

/-- An expression and those inside it, in written order. -/
def Expr.nodes : Expr → List Expr
  | .compound connective operands => .compound connective operands :: nodesOfAll operands
  | .not operand => .not operand :: operand.nodes
  | .compare left relation right =>
    .compare left relation right :: (left.nodes ++ right.nodes)
  | .column table name => [.column table name]
  | .placeholder name => [.placeholder name]
  | .inList negated subject list =>
    .inList negated subject list :: (subject.nodes ++ list.nodes)
  | .inQuery subject query => .inQuery subject query :: (subject.nodes ++ query.nodes)
  | .isNull negated subject => .isNull negated subject :: subject.nodes
  | .like subject pattern => .like subject pattern :: (subject.nodes ++ pattern.nodes)
  | .countRows => [.countRows]
  | .count distinct argument => .count distinct argument :: argument.nodes

/-- The nodes of several expressions. -/
def nodesOfAll : List Expr → List Expr
  | [] => []
  | e :: rest => e.nodes ++ nodesOfAll rest

/-- The nodes of a query. -/
def Select.nodes : Select → List Expr
  | ⟨columns, _, joins, filter, order, _, _⟩ =>
    columnNodes columns ++ joinNodes joins ++ nodesOfAll filter ++ orderNodes order

def columnNodes : List SelectItem → List Expr
  | [] => []
  | ⟨e, _⟩ :: rest => e.nodes ++ columnNodes rest

def joinNodes : List Join → List Expr
  | [] => []
  | ⟨_, _, on⟩ :: rest => on.nodes ++ joinNodes rest

def orderNodes : List OrderTerm → List Expr
  | [] => []
  | ⟨e, _⟩ :: rest => e.nodes ++ orderNodes rest

end

/-- The expressions of a statement and those inside them, in written order. -/
def Statement.nodes : Statement → List Expr
  | .query select => select.nodes
  | .insert _ values => nodesOfAll (values.map (·.2))
  | .update _ assignments filter => nodesOfAll (assignments.map (·.2)) ++ nodesOfAll filter
  | .delete _ filter => nodesOfAll filter

theorem mem_nodesOfAll {es : List Expr} {node : Expr} :
    node ∈ nodesOfAll es ↔ ∃ e ∈ es, node ∈ e.nodes := by
  induction es with
  | nil => simp [nodesOfAll]
  | cons e rest ih => simp [nodesOfAll, ih]

/-- The name of a placeholder. -/
def Expr.placeholder? : Expr → Option String
  | .placeholder name => some name
  | _ => none

/-! ## Placeholders among the nodes -/

mutual

theorem Expr.placeholders_eq (e : Expr) :
    e.placeholders = e.nodes.filterMap Expr.placeholder? := by
  cases e with
  | compound connective operands =>
    simp [Expr.placeholders, Expr.nodes, List.filterMap_cons, Expr.placeholder?,
      placeholdersAll_eq operands]
  | not operand | isNull _ operand | count _ operand =>
    simp [Expr.placeholders, Expr.nodes, List.filterMap_cons, Expr.placeholder?,
      operand.placeholders_eq]
  | compare left _ right | inList _ left right | like left right =>
    simp [Expr.placeholders, Expr.nodes, List.filterMap_cons, Expr.placeholder?,
      left.placeholders_eq, right.placeholders_eq]
  | inQuery subject query =>
    simp [Expr.placeholders, Expr.nodes, List.filterMap_cons, Expr.placeholder?,
      subject.placeholders_eq, query.placeholders_eq]
  | column _ _ | placeholder _ | countRows =>
    simp [Expr.placeholders, Expr.nodes, List.filterMap_cons, Expr.placeholder?]

theorem placeholdersAll_eq (es : List Expr) :
    placeholdersAll es = (nodesOfAll es).filterMap Expr.placeholder? := by
  cases es with
  | nil => rfl
  | cons e rest =>
    simp [placeholdersAll, nodesOfAll, e.placeholders_eq, placeholdersAll_eq rest]

theorem Select.placeholders_eq (q : Select) :
    q.placeholders = q.nodes.filterMap Expr.placeholder? := by
  cases q with
  | mk columns _ joins filter order _ _ =>
    simp [Select.placeholders, Select.nodes, columnPlaceholders_eq columns,
      joinPlaceholders_eq joins, placeholdersAll_eq filter, orderPlaceholders_eq order]

theorem columnPlaceholders_eq (items : List SelectItem) :
    columnPlaceholders items = (columnNodes items).filterMap Expr.placeholder? := by
  match items with
  | [] => rfl
  | ⟨e, _⟩ :: rest =>
    simp [columnPlaceholders, columnNodes, e.placeholders_eq, columnPlaceholders_eq rest]

theorem joinPlaceholders_eq (joins : List Join) :
    joinPlaceholders joins = (joinNodes joins).filterMap Expr.placeholder? := by
  match joins with
  | [] => rfl
  | ⟨_, _, on⟩ :: rest =>
    simp [joinPlaceholders, joinNodes, on.placeholders_eq, joinPlaceholders_eq rest]

theorem orderPlaceholders_eq (terms : List OrderTerm) :
    orderPlaceholders terms = (orderNodes terms).filterMap Expr.placeholder? := by
  match terms with
  | [] => rfl
  | ⟨e, _⟩ :: rest =>
    simp [orderPlaceholders, orderNodes, e.placeholders_eq, orderPlaceholders_eq rest]

end

theorem Statement.placeholders_eq (s : Statement) :
    s.placeholders = s.nodes.filterMap Expr.placeholder? := by
  cases s <;>
    simp [Statement.placeholders, Statement.nodes, Select.placeholders_eq, placeholdersAll_eq]

/-! ## Fragments of the nodes -/

/-- The fragment is not fixed text of a flavor: it binds a value or cannot be written. -/
def Fragment.isMark : Fragment → Bool
  | .placeholder _ | .missingOperands _ => true
  | .text _ | .patternEnd | .bareOffset => false

/-- The mark that is written for an expression itself, apart from those inside it. -/
def Expr.mark? : Expr → Option Fragment
  | .placeholder name => some (.placeholder name)
  | .compound connective [] => some (.missingOperands connective)
  | _ => none

/-- The marks among fragments. -/
def marks (fragments : List Fragment) : List Fragment := fragments.filter Fragment.isMark

@[simp] theorem marks_nil : marks [] = [] := rfl

@[simp] theorem marks_append (left right : List Fragment) :
    marks (left ++ right) = marks left ++ marks right :=
  List.filter_append left right

section

variable (rest : List Fragment)

@[simp] theorem marks_text (s : String) : marks (.text s :: rest) = marks rest := rfl

@[simp] theorem marks_placeholder (name : String) :
    marks (.placeholder name :: rest) = .placeholder name :: marks rest := rfl

@[simp] theorem marks_patternEnd : marks (.patternEnd :: rest) = marks rest := rfl

@[simp] theorem marks_bareOffset : marks (.bareOffset :: rest) = marks rest := rfl

@[simp] theorem marks_missingOperands (connective : Connective) :
    marks (.missingOperands connective :: rest) = .missingOperands connective :: marks rest := rfl

end

@[simp] theorem marks_separated (separator : String) (parts : List (List Fragment)) :
    marks (separated separator parts) = parts.flatMap marks := by
  induction parts with
  | nil => rfl
  | cons part rest ih =>
    cases rest with
    | nil => simp [separated]
    | cons next later => simp [separated, ih]

theorem marks_operandFragments (connective : Connective) {parts : List (List Fragment)}
    (some : parts ≠ []) : marks (operandFragments connective parts) = parts.flatMap marks := by
  match parts with
  | [] => exact absurd rfl some
  | [part] => simp [operandFragments]
  | first :: second :: rest => simp [operandFragments, List.flatMap_map]

@[simp] theorem marks_filterFragments (parts : List (List Fragment)) :
    marks (filterFragments parts) = parts.flatMap marks := by
  cases parts with
  | nil => rfl
  | cons part rest => simp [filterFragments, marks_operandFragments]

@[simp] theorem marks_tableRef (t : TableRef) : marks t.fragments = [] := by
  unfold TableRef.fragments
  split <;> rfl

@[simp] theorem marks_pageFragments (limit offset : Option Nat) :
    marks (pageFragments limit offset) = [] := by
  cases limit <;> cases offset <;> rfl

mutual

theorem Expr.marks_fragments (e : Expr) :
    marks e.fragments = e.nodes.filterMap Expr.mark? := by
  match e with
  | .compound connective [] => rfl
  | .compound connective (first :: rest) =>
    have written : fragmentsEach (first :: rest) ≠ [] := by simp [fragmentsEach]
    simp [Expr.fragments, Expr.nodes, List.filterMap_cons, Expr.mark?,
      marks_operandFragments _ written, marks_fragmentsEach (first :: rest)]
  | .not operand | .isNull _ operand | .count _ operand =>
    simp [Expr.fragments, Expr.nodes, List.filterMap_cons, Expr.mark?, operand.marks_fragments]
  | .compare left _ right | .inList _ left right =>
    simp [Expr.fragments, Expr.nodes, List.filterMap_cons, Expr.mark?, left.marks_fragments,
      right.marks_fragments]
  | .like subject pattern =>
    simp [Expr.fragments, Expr.nodes, List.filterMap_cons, Expr.mark?, subject.marks_fragments,
      pattern.marks_fragments]
  | .inQuery subject query =>
    simp [Expr.fragments, Expr.nodes, List.filterMap_cons, Expr.mark?, subject.marks_fragments,
      query.marks_fragments]
  | .column (some _) _ | .column none _ | .placeholder _ | .countRows => rfl

theorem marks_fragmentsEach (es : List Expr) :
    (fragmentsEach es).flatMap marks = (nodesOfAll es).filterMap Expr.mark? := by
  cases es with
  | nil => rfl
  | cons e rest =>
    simp [fragmentsEach, nodesOfAll, e.marks_fragments, marks_fragmentsEach rest]

theorem Select.marks_fragments (q : Select) :
    marks q.fragments = q.nodes.filterMap Expr.mark? := by
  match q with
  | ⟨columns, source, joins, filter, order, _, _⟩ =>
    have shown : marks (if columns.isEmpty then [.text "*"]
        else separated ", " (columnFragments columns)) =
          (columnNodes columns).filterMap Expr.mark? := by
      cases columns with
      | nil => rfl
      | cons item rest => simpa using marks_columnFragments (item :: rest)
    have ordered : marks (if order.isEmpty then []
        else .text " ORDER BY " :: separated ", " (orderFragments order)) =
          (orderNodes order).filterMap Expr.mark? := by
      cases order with
      | nil => rfl
      | cons term rest => simpa using marks_orderFragments (term :: rest)
    cases source <;>
      simp only [Select.fragments, Select.nodes, marks_append, marks_text, shown, ordered,
        marks_tableRef, marks_joinFragments joins, marks_filterFragments,
        marks_fragmentsEach filter, marks_pageFragments, List.filterMap_append, List.append_nil]

theorem marks_columnFragments (items : List SelectItem) :
    (columnFragments items).flatMap marks = (columnNodes items).filterMap Expr.mark? := by
  match items with
  | [] => rfl
  | ⟨e, some _⟩ :: rest | ⟨e, none⟩ :: rest =>
    simp [columnFragments, columnNodes, e.marks_fragments, marks_columnFragments rest]

theorem marks_joinFragments (joins : List Join) :
    marks (joinFragments joins) = (joinNodes joins).filterMap Expr.mark? := by
  match joins with
  | [] => rfl
  | ⟨_, _, on⟩ :: rest =>
    simp [joinFragments, joinNodes, on.marks_fragments, marks_joinFragments rest]

theorem marks_orderFragments (terms : List OrderTerm) :
    (orderFragments terms).flatMap marks = (orderNodes terms).filterMap Expr.mark? := by
  match terms with
  | [] => rfl
  | ⟨e, _⟩ :: rest =>
    simp [orderFragments, orderNodes, e.marks_fragments, marks_orderFragments rest]

end

theorem Statement.marks_fragments (s : Statement) :
    marks s.fragments = s.nodes.filterMap Expr.mark? := by
  cases s with
  | query select => exact select.marks_fragments
  | insert table values =>
    simp [Statement.fragments, Statement.nodes, List.flatMap_map, marks_fragmentsEach]
  | update table assignments filter =>
    have assigned : (assignments.map assignmentFragments).flatMap marks =
        (fragmentsEach (assignments.map (·.2))).flatMap marks := by
      induction assignments with
      | nil => rfl
      | cons assignment rest ih => simp_all [assignmentFragments, fragmentsEach]
    simp [Statement.fragments, Statement.nodes, assigned, marks_fragmentsEach]
  | delete table filter =>
    simp [Statement.fragments, Statement.nodes, marks_fragmentsEach]

end Relmap.Sql
