import Relmap.Proofs.Sql.Predicates
import Relmap.Proofs.Text.Digits

/-!
# Queries read back

A query is read by its output and, clause by clause, by what follows. Main statements,
`Expr.readsBack` and `Select.readsBack`: what is read from the items of a legible expression is the
expression itself, simplified.
-/

namespace Relmap.Sql

/-! ## Queries -/

theorem outputItem?_items {e : Expr} (reads : e.ReadsBack) :
    outputItem? e.items.reverse = some ⟨e.simplified, none⟩ := by
  unfold outputItem?
  split
  · -- An expression does not hold the word in front of a name.
    rename_i front reversed
    have inItems : keyword .as ∈ e.items := by
      rw [← List.mem_reverse, reversed]
      exact List.mem_cons_of_mem _ List.mem_cons_self
    cases e.inner_items _ inItems
  · rw [List.reverse_reverse, reads.whole]
    rfl

theorem outputItem?_named {e : Expr} (reads : e.ReadsBack) (aliasName : String) :
    outputItem? (e.items ++ [keyword .as, name aliasName]).reverse =
      some ⟨e.simplified, some aliasName⟩ := by
  rw [List.reverse_append]
  show (disjunction? e.items.reverse.reverse).map _ = _
  rw [List.reverse_reverse, reads.whole]
  rfl

theorem forall₂_columns {columns : List SelectItem}
    (reads : ∀ item ∈ columns, item.expr.ReadsBack) :
    List.Forall₂ (fun part item => outputItem? part.reverse = some item) (columnItems columns)
      (simplifiedColumns columns) := by
  induction columns with
  | nil => exact .nil
  | cons item rest ih =>
    obtain ⟨here, later⟩ := List.forall_mem_cons.mp reads
    obtain ⟨e, aliasName⟩ := item
    cases aliasName with
    | none => exact .cons (outputItem?_items here) (ih later)
    | some aliasName => exact .cons (outputItem?_named here aliasName) (ih later)

theorem orderTerm?_items {e : Expr} (reads : e.ReadsBack) (direction : Direction) :
    orderTerm? (e.items ++ [keyword direction.word]).reverse = some ⟨e.simplified, direction⟩ := by
  have read : disjunction? e.items.reverse.reverse = some e.simplified := by
    rw [List.reverse_reverse, reads.whole]
  rw [List.reverse_append]
  cases direction with
  | ascending => exact congrArg (Option.map _) read
  | descending => exact congrArg (Option.map _) read

theorem forall₂_order {terms : List OrderTerm} (reads : ∀ term ∈ terms, term.expr.ReadsBack) :
    List.Forall₂ (fun part term => orderTerm? part.reverse = some term) (orderItems terms)
      (simplifiedOrder terms) := by
  induction terms with
  | nil => exact .nil
  | cons term rest ih =>
    obtain ⟨here, later⟩ := List.forall_mem_cons.mp reads
    obtain ⟨e, direction⟩ := term
    exact .cons (orderTerm?_items here direction) (ih later)

/-- Terms between commas are found again. -/
theorem splitOnP_commas {parts : List (List Item)} (nonempty : parts ≠ [])
    (terms : ∀ part ∈ parts, ∀ item ∈ part, item.isTerm = true) :
    (between comma parts).splitOnP Item.isComma = parts :=
  splitOnP_between rfl nonempty fun part member item inPart =>
    Item.isComma_of_isTerm (terms part member item inPart)

theorem columns?_outputItems {q : Select} (reads : ∀ item ∈ q.columns, item.expr.ReadsBack) :
    columns? q.outputItems = some (simplifiedColumns q.columns) := by
  have each := forall₂_columns reads
  unfold Select.outputItems
  cases columns : q.columns with
  | nil => rfl
  | cons first rest =>
    rw [columns] at each
    have nonempty : columnItems (first :: rest) ≠ [] := by
      obtain ⟨e, aliasName⟩ := first
      cases aliasName <;> exact List.cons_ne_nil _ _
    show columns? (between comma (columnItems (first :: rest))) = _
    unfold columns?
    split
    · rename_i star
      have parts := splitOnP_commas nonempty term_columnItems
      rw [star] at parts
      have isPart : [.token (.mark .star)] ∈ columnItems (first :: rest) :=
        parts ▸ List.mem_singleton_self _
      cases term_columnItems _ isPart _ (List.mem_singleton_self _)
    · rw [splitOnP_commas nonempty term_columnItems]
      exact mapM_some each

theorem table?_items (t : TableRef) : table? t.items = some t := by
  obtain ⟨table, aliasName⟩ := t
  unfold TableRef.items
  split
  · rename_i same
    cases same
    rfl
  · rfl

theorem addClause_join (q : Select) {join : Join} (reads : join.on.ReadsBack) :
    addClause q join.clause = some (q.addJoin ⟨join.kind, join.target, join.on.simplified⟩) := by
  obtain ⟨kind, ⟨table, aliasName⟩, on⟩ := join
  have joined (kind : JoinKind) :
      join? kind (keyword .join :: (TableRef.items ⟨table, aliasName⟩ ++ keyword .on :: on.items)) =
        some ⟨kind, ⟨table, aliasName⟩, on.simplified⟩ := by
    unfold TableRef.items
    split
    · rename_i same
      cases same
      exact congrArg (Option.map _) reads.whole
    · exact congrArg (Option.map _) reads.whole
  cases kind with
  | inner => exact congrArg (Option.map q.addJoin) (joined .inner)
  | left => exact congrArg (Option.map q.addJoin) (joined .left)

theorem natural?_toString (n : Nat) : Text.natural? (toString n).toList = some n := by
  have digits : (toString n).toList = Text.decimal n := Nat.toList_repr
  rw [digits]
  exact Text.natural?_of_spells (Text.spells_decimal n)

/-- A clause that may be left out. -/
theorem foldlM_optional {α : Type} {clause : Clause} {items : α → List Item} {f : Option α → Select}
    (read : ∀ a, addClause (f none) (clause, items a) = some (f (some a))) (given : Option α) :
    (given.toList.map fun a => (clause, items a)).foldlM addClause (f none) = some (f given) := by
  cases given with
  | none => rfl
  | some a =>
    show (addClause (f none) (clause, items a)).bind some = _
    rw [read a]
    rfl

section

variable {columns : List SelectItem} {source : Option TableRef} {joins : List Join}
  {filter : List Expr} {order : List OrderTerm} {limit offset : Option Nat}

theorem foldlM_source :
    (source.toList.map fun t => (Clause.from, t.items)).foldlM addClause
      ⟨columns, none, joins, filter, order, limit, offset⟩ =
        some ⟨columns, source, joins, filter, order, limit, offset⟩ := by
  refine foldlM_optional (f := fun source =>
    ⟨columns, source, joins, filter, order, limit, offset⟩) (fun t => ?_) source
  exact congrArg (Option.map _) (table?_items t)

theorem foldlM_joins {later : List Join} (reads : ∀ join ∈ later, join.on.ReadsBack) :
    (later.map Join.clause).foldlM addClause
      ⟨columns, source, joins, filter, order, limit, offset⟩ =
        some ⟨columns, source, joins ++ simplifiedJoins later, filter, order, limit, offset⟩ := by
  induction later generalizing joins with
  | nil =>
    rw [simplifiedJoins, List.append_nil]
    rfl
  | cons join rest ih =>
    obtain ⟨here, later⟩ := List.forall_mem_cons.mp reads
    rw [List.map_cons, List.foldlM_cons, addClause_join _ here]
    refine (ih later).trans ?_
    obtain ⟨kind, target, on⟩ := join
    rw [List.append_assoc]
    rfl

theorem foldlM_filter (reads : ∀ e ∈ filter, e.ReadsBack) :
    (filterClauses filter).foldlM addClause ⟨columns, source, joins, [], order, limit, offset⟩ =
      some ⟨columns, source, joins, merged (simplifiedAll filter), order, limit, offset⟩ := by
  cases filter with
  | nil => rfl
  | cons first rest =>
    have nonempty : itemsEach (first :: rest) ≠ [] := List.cons_ne_nil _ _
    show (((disjunction? (operandItems .and (itemsEach (first :: rest)))).map _).bind some) = _
    rw [disjunction?_operandItems .and nonempty (Expr.ReadsBack.each reads)]
    rfl

theorem foldlM_order (reads : ∀ term ∈ order, term.expr.ReadsBack) :
    (orderClauses order).foldlM addClause ⟨columns, source, joins, filter, [], limit, offset⟩ =
      some ⟨columns, source, joins, filter, simplifiedOrder order, limit, offset⟩ := by
  cases order with
  | nil => rfl
  | cons first rest =>
    obtain ⟨e, direction⟩ := first
    have nonempty : orderItems (⟨e, direction⟩ :: rest) ≠ [] := List.cons_ne_nil _ _
    show (((((between comma (orderItems (⟨e, direction⟩ :: rest))).splitOnP Item.isComma).mapM
      fun part => orderTerm? part.reverse).map _).bind some) = _
    rw [splitOnP_commas nonempty term_orderItems, mapM_some (forall₂_order reads)]
    rfl

theorem foldlM_limit :
    (limit.toList.map fun n => (Clause.limit, [name (toString n)])).foldlM addClause
      ⟨columns, source, joins, filter, order, none, offset⟩ =
        some ⟨columns, source, joins, filter, order, limit, offset⟩ := by
  refine foldlM_optional (f := fun limit =>
    ⟨columns, source, joins, filter, order, limit, offset⟩) (fun n => ?_) limit
  exact congrArg (Option.map _) (natural?_toString n)

theorem foldlM_offset :
    (offset.toList.map fun n => (Clause.offset, [name (toString n)])).foldlM addClause
      ⟨columns, source, joins, filter, order, limit, none⟩ =
        some ⟨columns, source, joins, filter, order, limit, offset⟩ := by
  refine foldlM_optional (f := fun offset =>
    ⟨columns, source, joins, filter, order, limit, offset⟩) (fun n => ?_) offset
  exact congrArg (Option.map _) (natural?_toString n)

end

namespace Select

variable {q : Select}

theorem foldlM_clauses (joins : ∀ join ∈ q.joins, join.on.ReadsBack)
    (filter : ∀ e ∈ q.filter, e.ReadsBack) (order : ∀ term ∈ q.order, term.expr.ReadsBack) :
    q.clauses.foldlM addClause ⟨simplifiedColumns q.columns, none, [], [], [], none, none⟩ =
      some q.simplified := by
  simp only [clauses, List.foldlM_append, foldlM_source, foldlM_joins joins, foldlM_filter filter,
    foldlM_order order, foldlM_limit, foldlM_offset, Option.bind_eq_bind, Option.bind_some]
  cases q
  rfl

/-- A query is read once its columns, the conditions of its joins, its filter and its order are. -/
theorem read_items (columns : ∀ item ∈ q.columns, item.expr.ReadsBack)
    (joins : ∀ join ∈ q.joins, join.on.ReadsBack) (filter : ∀ e ∈ q.filter, e.ReadsBack)
    (order : ∀ term ∈ q.order, term.expr.ReadsBack) :
    Content.read q.items = .query q.simplified := by
  obtain ⟨body, isQuery, clausesOf⟩ := q.exists_body
  have parts := clausesOf [] rfl
  change _ = (q.outputItems, q.clauses ++ []) at parts
  rw [List.append_nil, List.append_nil] at parts
  have read : query? body = some q.simplified := by
    rw [query?, parts, columns?_outputItems columns]
    exact foldlM_clauses joins filter order
  rw [isQuery]
  show ((query? body).map Content.query).getD .unread = _
  rw [read]
  rfl

end Select

mutual

/-- What is read from the items of a legible expression is the expression simplified. -/
theorem Expr.readsBack : ∀ (e : Expr), e.Legible → e.ReadsBack
  | .compound connective operands, legible => by
    obtain ⟨here, inside⟩ := List.forall_mem_cons.mp legible
    refine .compound connective ?_ (readsBack_each operands inside)
    rintro rfl
    cases here
  | .not operand, legible => (operand.readsBack (List.forall_mem_cons.mp legible).2).not
  | .compare left relation right, legible => by
    obtain ⟨here, inside⟩ := List.forall_mem_cons.mp legible
    obtain ⟨isLeft, isRight⟩ := Bool.and_eq_true_iff.mp here
    obtain ⟨inLeft, inRight⟩ := List.forall_mem_append.mp inside
    exact (left.readsBack inLeft).compare (right.readsBack inRight) isLeft isRight relation
  | .column table name, _ => .column table name
  | .placeholder _, _ => .of_operand rfl fun _ _ => rfl
  | .inList negated subject list, legible => by
    obtain ⟨here, inside⟩ := List.forall_mem_cons.mp legible
    obtain ⟨inSubject, inList⟩ := List.forall_mem_append.mp inside
    exact (subject.readsBack inSubject).inList (list.readsBack inList) here negated
  | .inQuery subject query, legible => by
    obtain ⟨here, inside⟩ := List.forall_mem_cons.mp legible
    obtain ⟨inSubject, inQuery⟩ := List.forall_mem_append.mp inside
    exact (subject.readsBack inSubject).inQuery here (query.readsBack inQuery)
  | .isNull negated subject, legible => by
    obtain ⟨here, inside⟩ := List.forall_mem_cons.mp legible
    exact (subject.readsBack inside).isNull here negated
  | .like subject pattern, legible => by
    obtain ⟨here, inside⟩ := List.forall_mem_cons.mp legible
    obtain ⟨isSubject, isPattern⟩ := Bool.and_eq_true_iff.mp here
    obtain ⟨inSubject, inPattern⟩ := List.forall_mem_append.mp inside
    exact (subject.readsBack inSubject).like (pattern.readsBack inPattern) isSubject isPattern
  | .countRows, _ => .of_operand rfl fun _ _ => rfl
  | .count distinct argument, legible =>
    (argument.readsBack (List.forall_mem_cons.mp legible).2).count distinct

theorem readsBack_each : ∀ (es : List Expr), (∀ node ∈ nodesOfAll es, node.isLegible = true) →
    ∀ e ∈ es, e.ReadsBack
  | [], _ => nofun
  | e :: rest, legible => by
    obtain ⟨here, later⟩ := List.forall_mem_append.mp legible
    exact List.forall_mem_cons.mpr ⟨e.readsBack here, readsBack_each rest later⟩

theorem Select.readsBack : ∀ (q : Select), (∀ node ∈ q.nodes, node.isLegible = true) →
    Content.read q.items = .query q.simplified
  | ⟨columns, source, joins, filter, order, limit, offset⟩, legible => by
    simp only [Select.nodes, List.forall_mem_append] at legible
    obtain ⟨⟨⟨inColumns, inJoins⟩, inFilter⟩, inOrder⟩ := legible
    exact Select.read_items (readsBack_columns columns inColumns) (readsBack_joins joins inJoins)
      (readsBack_each filter inFilter) (readsBack_order order inOrder)

theorem readsBack_columns : ∀ (columns : List SelectItem),
    (∀ node ∈ columnNodes columns, node.isLegible = true) →
      ∀ item ∈ columns, item.expr.ReadsBack
  | [], _ => nofun
  | ⟨e, aliasName⟩ :: rest, legible => by
    obtain ⟨here, later⟩ := List.forall_mem_append.mp legible
    exact List.forall_mem_cons.mpr ⟨e.readsBack here, readsBack_columns rest later⟩

theorem readsBack_joins : ∀ (joins : List Join),
    (∀ node ∈ joinNodes joins, node.isLegible = true) → ∀ join ∈ joins, join.on.ReadsBack
  | [], _ => nofun
  | ⟨kind, target, on⟩ :: rest, legible => by
    obtain ⟨here, later⟩ := List.forall_mem_append.mp legible
    exact List.forall_mem_cons.mpr ⟨on.readsBack here, readsBack_joins rest later⟩

theorem readsBack_order : ∀ (terms : List OrderTerm),
    (∀ node ∈ orderNodes terms, node.isLegible = true) → ∀ term ∈ terms, term.expr.ReadsBack
  | [], _ => nofun
  | ⟨e, direction⟩ :: rest, legible => by
    obtain ⟨here, later⟩ := List.forall_mem_append.mp legible
    exact List.forall_mem_cons.mpr ⟨e.readsBack here, readsBack_order rest later⟩

end

end Relmap.Sql
