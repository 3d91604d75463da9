import Relmap.Proofs.Sql.Flavors
import Relmap.Proofs.Sql.Queries
import Relmap.Proofs.Sql.Reads

/-!
# Texts read back

What is read from the text of a condition or of a query. Main statements, `readCondition_eq` and
`readFilter_eq`, which say which items are read from a text, and `readFilter_conjoined`: the filters of
a query are read as one condition.
-/

namespace Relmap.Sql

theorem chars_pieces (params : List Parameter) (fragments : List Fragment) (taken : Nat) :
    (String.join ((pieces params taken fragments).map (·.spelled .named))).toList =
      charsOf fragments := by
  induction fragments generalizing taken with
  | nil => rfl
  | cons f rest ih =>
    rw [pieces, List.map_cons, String.join_cons, String.toList_append, ih, charsOf_cons]
    congr 1
    cases f with
    | placeholder name => exact String.toList_append
    | text s | patternEnd | bareOffset | missingOperands connective => rfl

theorem Expr.exists_chars {e : Expr} {params : List Parameter}
    (faultless : ∀ node ∈ e.nodes, node.fault? params = none) :
    ∃ text, (e.render .named params).outcome = .ok text ∧ text.toList = charsOf e.fragments := by
  have noError : (marks e.fragments).findSome? (Writing.errorOf params) = none := by
    rw [e.marks_fragments, fault_of_nodes]
    exact List.findSome?_eq_none_iff.mpr faultless
  refine ⟨_, ?_, chars_pieces params e.fragments 0⟩
  rw [Expr.render, render_pieces noError]

theorem Select.exists_chars {q : Select} {params : List Parameter}
    (faultless : ∀ node ∈ q.nodes, node.fault? params = none) :
    ∃ text, ((Statement.query q).render .named params).outcome = .ok text ∧
      text.toList = charsOf q.fragments ++ [';'] := by
  have written := Statement.render_pieces (s := .query q)
    (List.findSome?_eq_none_iff.mpr faultless) .named
  refine ⟨_, congrArg Rendering.outcome written, ?_⟩
  rw [String.toList_append, chars_pieces]
  rfl

theorem items?_of_reads {s : String} {items : List Item} (reads : Reads s.toList items) :
    items? s = some items := by
  have read := reads [] [] [] closed_nil
  rw [List.append_nil, List.nil_append] at read
  show (if (Reader.run ⟨[], [], []⟩ s.toList).outer.isEmpty then
    some (Reader.run ⟨[], [], []⟩ s.toList).items else none) = _
  rw [read]
  rfl

theorem readCondition_eq {e : Expr} {text : String} (chars : text.toList = charsOf e.fragments)
    (plain : ∀ n ∈ e.identifiers, isPlain n = true)
    (bound : ∀ n ∈ e.placeholders, isPlain n = true) :
    readCondition text = disjunction? e.items := by
  rw [readCondition, items?_of_reads (chars ▸ e.reads plain bound), Option.bind_some]

/-- The only filter among the clauses is that of the query, whatever its expressions are. -/
theorem Select.find?_clauses (q : Select) :
    (q.clauses ++ [(Clause.finish, [])]).find? isFilter = (filterClauses q.filter).head? := by
  have source : (q.source.toList.map fun t => (Clause.from, t.items)).find? isFilter = none := by
    cases q.source <;> rfl
  have joins : (q.joins.map Join.clause).find? isFilter = none := by
    refine List.find?_eq_none.mpr fun clause member => ?_
    obtain ⟨⟨kind, target, on⟩, -, rfl⟩ := List.mem_map.mp member
    cases kind <;> exact Bool.false_ne_true
  have filter : (filterClauses q.filter).find? isFilter = (filterClauses q.filter).head? := by
    cases q.filter <;> rfl
  have order : (orderClauses q.order).find? isFilter = none := by
    cases q.order <;> rfl
  have page (clause : Clause) (other : clause ≠ .where) (given : Option Nat) :
      (given.toList.map fun n => (clause, [name (toString n)])).find? isFilter = none := by
    cases given with
    | none => rfl
    | some n => simpa [isFilter] using other
  simp only [clauses, List.find?_append, source, joins, filter, order, page .limit (by decide),
    page .offset (by decide), Option.none_or]
  cases (filterClauses q.filter).head? <;> rfl

/-- What is read of a query is what follows `WHERE`, if it has a filter. -/
theorem readFilter_eq {q : Select} {text : String}
    (chars : text.toList = charsOf q.fragments ++ [';'])
    (plain : ∀ n ∈ q.identifiers, isPlain n = true)
    (bound : ∀ n ∈ q.placeholders, isPlain n = true) :
    readFilter text = match (filterClauses q.filter).head? with
      | some (_, items) => (disjunction? items).map some
      | none => some none := by
  have semicolon : Reads [';'] [.token (.mark .semicolon)] := reads_nil.mark rfl fun _ => rfl
  have whole := (q.reads plain bound).append semicolon (closed_of_mark rfl [])
  obtain ⟨body, isQuery, clausesOf⟩ := q.exists_body
  have read : items? text = some (keyword .select :: (body ++ [.token (.mark .semicolon)])) := by
    rw [items?_of_reads (chars ▸ whole), isQuery]
    rfl
  have parts := clausesOf [.token (.mark .semicolon)] rfl
  rw [readFilter, read, ← q.find?_clauses]
  show (match (clauses (body ++ [.token (.mark .semicolon)])).2.find? isFilter with
    | some (_, items) => (disjunction? items).map some
    | none => some none) = _
  rw [parts]
  rfl

/-- Conditions that are all to hold, as one. -/
def conjoined (conditions : List Expr) : Option Expr :=
  if conditions.isEmpty then none else some (Expr.all conditions).simplified

theorem readFilter_conjoined {q : Select} {text : String}
    (chars : text.toList = charsOf q.fragments ++ [';'])
    (plain : ∀ n ∈ q.identifiers, isPlain n = true)
    (bound : ∀ n ∈ q.placeholders, isPlain n = true)
    (legible : ∀ e ∈ q.filter, e.Legible) : readFilter text = some (conjoined q.filter) := by
  rw [readFilter_eq chars plain bound]
  cases filter : q.filter with
  | nil => rfl
  | cons first rest =>
    have reads : ∀ e ∈ first :: rest, e.ReadsBack :=
      fun e member => e.readsBack (legible e (filter ▸ member))
    have whole := Expr.ReadsBack.compound .and (List.cons_ne_nil first rest) reads
    exact congrArg (Option.map some) whole.whole

end Relmap.Sql
