import Relmap.Proofs.Sql.Items

/-!
# Clauses of written queries

Which items can stand in an expression outside of all parentheses, and how the items of a query
divide into its output and its clauses. Main statement, `Select.exists_body`: no clause begins in
another one, whatever expressions the query is made of.
-/

namespace Relmap.Sql

/-! ## Items of expressions -/

/-- The item can stand in an expression outside of all parentheses. -/
def Item.isInner : Item → Bool
  | .token (.keyword k) => [.and, .or, .not, .in, .is, .null, .like, .count].contains k
  | .token (.mark m) => m == .dot || m == .colon
  | _ => true

/-- All items can stand in an expression. -/
def Inner (items : List Item) : Prop := ∀ item ∈ items, item.isInner = true

theorem Inner.append {items others : List Item} (first : Inner items) (second : Inner others) :
    Inner (items ++ others) := List.forall_mem_append.mpr ⟨first, second⟩

theorem forall_mem_between {separator : Item} {holds : Item → Prop} (here : holds separator)
    {parts : List (List Item)} (each : ∀ part ∈ parts, ∀ item ∈ part, holds item) :
    ∀ item ∈ between separator parts, holds item := by
  induction parts with
  | nil => exact nofun
  | cons first rest ih =>
    obtain ⟨inFirst, later⟩ := List.forall_mem_cons.mp each
    cases rest with
    | nil => exact inFirst
    | cons second rest =>
      exact List.forall_mem_append.mpr ⟨inFirst, List.forall_mem_cons.mpr ⟨here, ih later⟩⟩

theorem inner_operandItems {connective : Connective} {operands : List (List Item)}
    (each : ∀ operand ∈ operands, Inner operand) : Inner (operandItems connective operands) := by
  unfold operandItems
  split
  · exact nofun
  · exact each _ (List.mem_singleton_self _)
  · refine forall_mem_between (by cases connective <;> rfl) fun part member => ?_
    obtain ⟨_, -, rfl⟩ := List.mem_map.mp member
    exact List.forall_mem_singleton.mpr rfl

theorem inner_of_all {items : List Item} (inner : items.all Item.isInner = true) : Inner items :=
  List.all_eq_true.mp inner

mutual

theorem Expr.inner_items : ∀ (e : Expr), Inner e.items
  | .compound _ operands => inner_operandItems (inner_itemsEach operands)
  | .compare left _ right =>
    left.inner_items.append (List.forall_mem_cons.mpr ⟨rfl, right.inner_items⟩)
  | .like subject pattern =>
    subject.inner_items.append (List.forall_mem_cons.mpr ⟨rfl, pattern.inner_items⟩)
  | .inList false subject _ | .inList true subject _ | .inQuery subject _
  | .isNull false subject | .isNull true subject =>
    subject.inner_items.append (inner_of_all rfl)
  | .not _ | .column (some _) _ | .column none _ | .placeholder _ | .countRows | .count false _
  | .count true _ => inner_of_all rfl

theorem inner_itemsEach : ∀ (es : List Expr), ∀ items ∈ itemsEach es, Inner items
  | [] => nofun
  | e :: rest => List.forall_mem_cons.mpr ⟨e.inner_items, inner_itemsEach rest⟩

end

/-! ## Clauses -/

/-- The item can stand in an output column or in a term of an order. -/
def Item.isTerm : Item → Bool
  | .token (.keyword .as) | .token (.keyword .asc) | .token (.keyword .desc) => true
  | item => item.isInner

theorem Item.isTerm_of_isInner {item : Item} (inner : item.isInner = true) :
    item.isTerm = true := by
  unfold isTerm
  split
  · rfl
  · rfl
  · rfl
  · exact inner

theorem Item.isComma_of_isTerm {item : Item} (term : item.isTerm = true) :
    item.isComma = false := by
  unfold isComma
  split
  · cases term
  · rfl

theorem Clause.of?_of_isTerm {item : Item} (term : item.isTerm = true) :
    Clause.of? item = none := by
  unfold Clause.of?
  split
  all_goals first
    | rfl
    | cases term

theorem term_columnItems {columns : List SelectItem} :
    ∀ part ∈ columnItems columns, ∀ item ∈ part, item.isTerm = true := by
  induction columns with
  | nil => exact nofun
  | cons column rest ih =>
    obtain ⟨e, aliasName⟩ := column
    have ofExpr : ∀ item ∈ e.items, item.isTerm = true :=
      fun item member => Item.isTerm_of_isInner (e.inner_items item member)
    cases aliasName with
    | none => exact List.forall_mem_cons.mpr ⟨ofExpr, ih⟩
    | some aliasName =>
      refine List.forall_mem_cons.mpr ⟨List.forall_mem_append.mpr ⟨ofExpr, ?_⟩, ih⟩
      exact List.all_eq_true.mp rfl

theorem term_orderItems {terms : List OrderTerm} :
    ∀ part ∈ orderItems terms, ∀ item ∈ part, item.isTerm = true := by
  induction terms with
  | nil => exact nofun
  | cons term rest ih =>
    obtain ⟨e, direction⟩ := term
    have ofExpr : ∀ item ∈ e.items, item.isTerm = true :=
      fun item member => Item.isTerm_of_isInner (e.inner_items item member)
    refine List.forall_mem_cons.mpr ⟨List.forall_mem_append.mpr ⟨ofExpr, ?_⟩, ih⟩
    cases direction <;> exact List.all_eq_true.mp rfl

/-- No clause begins in the items. -/
def Undivided (items : List Item) : Prop := ∀ item ∈ items, Clause.of? item = none

theorem Undivided.append {items others : List Item} (first : Undivided items)
    (second : Undivided others) : Undivided (items ++ others) :=
  List.forall_mem_append.mpr ⟨first, second⟩

theorem Inner.undivided {items : List Item} (inner : Inner items) : Undivided items :=
  fun item member => Clause.of?_of_isTerm (Item.isTerm_of_isInner (inner item member))

theorem undivided_commas {parts : List (List Item)}
    (terms : ∀ part ∈ parts, ∀ item ∈ part, item.isTerm = true) :
    Undivided (between comma parts) :=
  forall_mem_between (by rfl) fun part member item inPart =>
    Clause.of?_of_isTerm (terms part member item inPart)

theorem clauses_append {items : List Item} (undivided : Undivided items) (rest : List Item) :
    clauses (items ++ rest) = (items ++ (clauses rest).1, (clauses rest).2) := by
  induction items with
  | nil => rfl
  | cons item others ih =>
    obtain ⟨here, later⟩ := List.forall_mem_cons.mp undivided
    rw [List.cons_append, clauses, here, ih later]
    rfl

/-- The items are those of the clauses, whatever clauses follow. -/
def Divides (items : List Item) (parts : List (Clause × List Item)) : Prop :=
  ∀ rest, (clauses rest).1 = [] → clauses (items ++ rest) = ([], parts ++ (clauses rest).2)

theorem divides_nil : Divides [] [] := fun _ none => Prod.ext none rfl

theorem divides_clause {head : Item} {clause : Clause} (begins : Clause.of? head = some clause)
    {items : List Item} (undivided : Undivided items) :
    Divides (head :: items) [(clause, items)] := by
  intro rest none
  rw [List.cons_append, clauses, begins, clauses_append undivided, none, List.append_nil]
  rfl

theorem Divides.append {items others : List Item} {parts more : List (Clause × List Item)}
    (first : Divides items parts) (second : Divides others more) :
    Divides (items ++ others) (parts ++ more) := by
  intro rest none
  have later := second rest none
  rw [List.append_assoc, first _ (by rw [later]), later, List.append_assoc]

def JoinKind.clause : JoinKind → Clause
  | .inner => .innerJoin
  | .left => .leftJoin

def Join.clause (join : Join) : Clause × List Item :=
  (join.kind.clause, keyword .join :: (join.target.items ++ keyword .on :: join.on.items))

/-- The items of the output columns. -/
def Select.outputItems (q : Select) : List Item :=
  if q.columns.isEmpty then [.token (.mark .star)] else between comma (columnItems q.columns)

/-- The clause of a filter, if there is one. -/
def filterClauses (filter : List Expr) : List (Clause × List Item) :=
  if filter.isEmpty then [] else [(.where, operandItems .and (itemsEach filter))]

def orderClauses (order : List OrderTerm) : List (Clause × List Item) :=
  if order.isEmpty then [] else [(.order, keyword .by :: between comma (orderItems order))]

/-- The clauses of a query. -/
def Select.clauses (q : Select) : List (Clause × List Item) :=
  (q.source.toList.map fun t => (.from, t.items)) ++ q.joins.map Join.clause ++
    filterClauses q.filter ++ orderClauses q.order ++
      (q.limit.toList.map fun n => (.limit, [name (toString n)])) ++
        q.offset.toList.map fun n => (.offset, [name (toString n)])

theorem inner_tableRef (t : TableRef) : Inner t.items := by
  unfold TableRef.items
  split <;> exact inner_of_all rfl

theorem divides_joins (joins : List Join) : Divides (joinItems joins) (joins.map Join.clause) := by
  induction joins with
  | nil => exact divides_nil
  | cons join rest ih =>
    obtain ⟨kind, target, on⟩ := join
    have begins : Clause.of? (keyword kind.word) = some kind.clause := by cases kind <;> rfl
    have undivided : Undivided (keyword .join :: (target.items ++ keyword .on :: on.items)) :=
      List.forall_mem_cons.mpr ⟨rfl, (inner_tableRef target).undivided.append
        (List.forall_mem_cons.mpr ⟨rfl, on.inner_items.undivided⟩)⟩
    exact (divides_clause begins undivided).append ih

theorem divides_filter (filter : List Expr) :
    Divides (filterItems (itemsEach filter)) (filterClauses filter) := by
  cases filter with
  | nil => exact divides_nil
  | cons first rest =>
    exact divides_clause rfl (inner_operandItems (inner_itemsEach (first :: rest))).undivided

theorem divides_order (order : List OrderTerm) :
    Divides (if order.isEmpty then []
        else keyword .order :: keyword .by :: between comma (orderItems order))
      (orderClauses order) := by
  cases order with
  | nil => exact divides_nil
  | cons first rest =>
    exact divides_clause rfl (List.forall_mem_cons.mpr ⟨rfl, undivided_commas term_orderItems⟩)

/-- An optional clause. -/
theorem divides_optional {α : Type} (k : Keyword) {clause : Clause}
    (begins : Clause.of? (keyword k) = some clause) {items : α → List Item}
    (inner : ∀ a, Inner (items a)) (given : Option α) :
    Divides (given.toList.flatMap fun a => keyword k :: items a)
      (given.toList.map fun a => (clause, items a)) := by
  cases given with
  | none => exact divides_nil
  | some a =>
    rw [Option.toList_some, List.flatMap_singleton]
    exact divides_clause begins (inner a).undivided

theorem Select.undivided_outputItems (q : Select) : Undivided q.outputItems := by
  unfold outputItems
  split
  · exact List.forall_mem_singleton.mpr rfl
  · exact undivided_commas term_columnItems

theorem Select.exists_divides (q : Select) :
    ∃ items, q.items = keyword .select :: (q.outputItems ++ items) ∧ Divides items q.clauses := by
  obtain ⟨columns, source, joins, filter, order, limit, offset⟩ := q
  have number (n : Nat) : Inner [name (toString n)] := inner_of_all rfl
  have front := (divides_optional .from rfl inner_tableRef source).append (divides_joins joins)
  have middle := (front.append (divides_filter filter)).append (divides_order order)
  have divides := (middle.append (divides_optional .limit rfl number limit)).append
    (divides_optional .offset rfl number offset)
  refine ⟨_, ?_, divides⟩
  simp only [items, outputItems, pageItems, List.append_assoc, List.cons_append]

/-- A query is read as its output and its clauses, whatever clauses follow. -/
theorem Select.exists_body (q : Select) :
    ∃ body, q.items = keyword .select :: body ∧ ∀ rest, (Sql.clauses rest).1 = [] →
      Sql.clauses (body ++ rest) = (q.outputItems, q.clauses ++ (Sql.clauses rest).2) := by
  obtain ⟨items, isQuery, divides⟩ := q.exists_divides
  -- The output holds no clause, so all before the first one is output.
  refine ⟨_, isQuery, fun rest none => ?_⟩
  rw [List.append_assoc, clauses_append q.undivided_outputItems, divides rest none, List.append_nil]

end Relmap.Sql
