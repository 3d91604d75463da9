import Relmap.Proofs.Gateway.Written

/-!
# Rows found and rows counted

The query that counts rows is put together apart from the query that finds them. Main statement,
`count_matches_find`: both select from the same tables, joined alike, under the same conditions with
the same parameters, and rows can be counted just if they can be found and have one identifier
column.
-/

namespace Relmap

open Sql

/-! ## Queries that select alike -/

namespace Sql.Select

/-- Two queries read the same rows. Their output, order and page may differ. -/
structure SameRows (q q' : Select) : Prop where
  source : q.source = q'.source
  joins : q.joins = q'.joins
  filter : q.filter = q'.filter

namespace SameRows

variable {q q' q'' : Select}

theorem trans (same : q.SameRows q') (same' : q'.SameRows q'') : q.SameRows q'' :=
  ⟨same.source.trans same'.source, same.joins.trans same'.joins, same.filter.trans same'.filter⟩

theorem addJoinOnce (same : q.SameRows q') (join : Join) :
    (addJoinOnce q join).SameRows (Relmap.addJoinOnce q' join) := by
  have taken : q.isJoined join.target.aliasName = q'.isJoined join.target.aliasName := by
    rw [isJoined, isJoined, same.joins]
  unfold Relmap.addJoinOnce
  rw [taken]
  split
  · exact same
  · exact ⟨same.source, congrArg (· ++ [join]) same.joins, same.filter⟩

/-- A condition is added to both queries alike: whether a join is left out depends on the joins that
are there. -/
theorem applyTo (same : q.SameRows q') (condition : Condition) :
    (condition.applyTo q).SameRows (condition.applyTo q') := by
  have joined : (condition.joins.foldl Relmap.addJoinOnce q).SameRows
      (condition.joins.foldl Relmap.addJoinOnce q') := by
    induction condition.joins generalizing q q' with
    | nil => exact same
    | cons join rest ih => exact ih (same.addJoinOnce join)
  unfold Condition.applyTo
  cases condition.expr with
  | none => exact joined
  | some e => exact ⟨joined.source, joined.joins, congrArg (· ++ [e]) joined.filter⟩

end SameRows
end Sql.Select

theorem Metadata.identifierColumn_eq_ok {m : Metadata} {column : String} :
    m.identifierColumn = .ok column ↔ m.identifier = [column] := by
  unfold identifierColumn
  split <;> simp_all

namespace Gateway

variable {g : Gateway} {c : Criteria}

/-! ## The parts of a query -/

theorem joinSubclass_columns (identifier : String) (others : List SelectItem) (q : Select)
    (child : Metadata) :
    g.joinSubclass identifier { q with columns := others } child =
      (g.joinSubclass identifier q child).map fun q => { q with columns := others } := by
  unfold joinSubclass
  rw [show ({ q with columns := others } : Select).isJoined child.table = q.isJoined child.table
    from rfl]
  split
  · rfl
  · cases child.identifierColumn <;> rfl

/-- The subclasses are joined in the same way whatever the output columns are. -/
theorem source_columns (columns others : List SelectItem) :
    g.source others = (g.source columns).map fun q => { q with columns := others } := by
  unfold source
  by_cases parent : g.metadata.hasSubclasses = true
  · simp only [if_pos parent]
    cases g.metadata.identifierColumn with
    | error e => rfl
    | ok identifier =>
      exact foldlM_hom (joinSubclass_columns identifier others)
        ({ Select.empty with columns }.from g.table g.aliasName) _
  · simp only [if_neg parent]
    rfl

theorem sameRows_source {columns others : List SelectItem} {q q' : Select}
    (ok : g.source columns = .ok q) (ok' : g.source others = .ok q') : q.SameRows q' := by
  rw [source_columns columns others, ok] at ok'
  cases ok'
  exact ⟨rfl, rfl, rfl⟩

theorem exists_source {columns : List SelectItem} (others : List SelectItem) {q : Select}
    (ok : g.source columns = .ok q) : ∃ q', g.source others = .ok q' := by
  rw [source_columns columns others, ok]
  exact ⟨_, rfl⟩

theorem sameRows_ordered {q q' : Select} {ordering : Ordering}
    (ok : g.ordered q ordering = .ok q') : q.SameRows q' := by
  refine foldlM_keeps (fun term _ before after same ok => ?_) ⟨rfl, rfl, rfl⟩ ok
  obtain ⟨e, -, rfl⟩ := map_eq_ok.mp ok
  exact same.trans ⟨rfl, rfl, rfl⟩

/-- The page of a query. -/
def paged (limit : Option Nat) (offset : Nat) (q : Select) : Select :=
  if 0 < offset then (q.withLimit limit).withOffset (some offset) else q.withLimit limit

theorem sameRows_paged (limit : Option Nat) (offset : Nat) (q : Select) :
    q.SameRows (paged limit offset q) := by
  unfold paged
  split <;> exact ⟨rfl, rfl, rfl⟩

theorem findQuery_eq_ok {ordering : Ordering} {limit : Option Nat} {offset : Nat}
    {found : BoundQuery} :
    g.findQuery c ordering limit offset = .ok found ↔
      ∃ rows base condition params, g.selectQuery = .ok rows ∧ g.ordered rows ordering = .ok base ∧
        g.condition c = .ok condition ∧ condition.params.mapM Parameter.toStored = .ok params ∧
        (condition.applyTo (paged limit offset base), params) = found := by
  simp only [findQuery, findPlan, Plan.query, paged, bind_eq_ok, pure_eq_ok, map_eq_ok]
  constructor
  · rintro ⟨_, ⟨rows, selected, base, ordered, condition, compiled, rfl⟩, params, stored, built⟩
    exact ⟨rows, base, condition, params, selected, ordered, compiled, stored, built⟩
  · rintro ⟨rows, base, condition, params, selected, ordered, compiled, stored, built⟩
    exact ⟨_, ⟨rows, selected, base, ordered, condition, compiled, rfl⟩, params, stored, built⟩

theorem countQuery_eq_ok {counted : BoundQuery} :
    g.countQuery c = .ok counted ↔
      ∃ identifier base condition params, g.metadata.identifierColumn = .ok identifier ∧
        g.source [⟨.count true (.of g.aliasName identifier), none⟩] = .ok base ∧
        g.condition c = .ok condition ∧ condition.params.mapM Parameter.toStored = .ok params ∧
        (condition.applyTo base, params) = counted := by
  simp only [countQuery, countPlan, Plan.query, bind_eq_ok, pure_eq_ok, map_eq_ok]
  constructor
  · rintro ⟨_, ⟨identifier, isOnly, base, joined, condition, compiled, rfl⟩, params, stored, built⟩
    exact ⟨identifier, base, condition, params, isOnly, joined, compiled, stored, built⟩
  · rintro ⟨identifier, base, condition, params, isOnly, joined, compiled, stored, built⟩
    exact ⟨_, ⟨identifier, isOnly, base, joined, condition, compiled, rfl⟩, params, stored, built⟩

/-- Rows are counted as they are found: from the same table, with the same joins in the same order,
under the same conditions and with the same parameters, whatever order and page they are found in.
They can be counted just if the table has one identifier column and they can be found in no order. -/
theorem count_matches_find (g : Gateway) (c : Criteria) (ordering : Ordering) (limit : Option Nat)
    (offset : Nat) :
    (∀ q params counted countedParams, g.findQuery c ordering limit offset = .ok (q, params) →
      g.countQuery c = .ok (counted, countedParams) →
      counted.source = q.source ∧ counted.joins = q.joins ∧ counted.filter = q.filter ∧
        countedParams = params) ∧
    ((∃ counted, g.countQuery c = .ok counted) ↔
      (∃ column, g.metadata.identifier = [column]) ∧
        ∃ found, g.findQuery c [] limit offset = .ok found) := by
  refine ⟨?_, ?_⟩
  · intro q params counted countedParams found count
    obtain ⟨rows, base, condition, _, selected, isOrdered, compiled, stored, built⟩ :=
      findQuery_eq_ok.mp found
    obtain ⟨identifier, countBase, _, _, -, joined, compiled', stored', built'⟩ :=
      countQuery_eq_ok.mp count
    obtain rfl := Except.ok.inj (compiled.symm.trans compiled')
    obtain rfl := Except.ok.inj (stored.symm.trans stored')
    cases built
    cases built'
    have bases : countBase.SameRows (paged limit offset base) :=
      (sameRows_source joined selected).trans
        ((sameRows_ordered isOrdered).trans (sameRows_paged limit offset base))
    obtain ⟨source, joins, filter⟩ := bases.applyTo condition
    exact ⟨source, joins, filter, rfl⟩
  · constructor
    · rintro ⟨counted, count⟩
      obtain ⟨identifier, base, condition, params, isOnly, joined, compiled, stored, -⟩ :=
        countQuery_eq_ok.mp count
      obtain ⟨rows, selected⟩ := exists_source g.outputItems joined
      exact ⟨⟨identifier, Metadata.identifierColumn_eq_ok.mp isOnly⟩, _,
        findQuery_eq_ok.mpr ⟨rows, rows, condition, params, selected, rfl, compiled, stored, rfl⟩⟩
    · rintro ⟨⟨identifier, isOnly⟩, found, find⟩
      obtain ⟨rows, base, condition, params, selected, -, compiled, stored, -⟩ :=
        findQuery_eq_ok.mp find
      obtain ⟨countBase, joined⟩ := exists_source _ selected
      exact ⟨_, countQuery_eq_ok.mpr ⟨identifier, countBase, condition, params,
        Metadata.identifierColumn_eq_ok.mpr isOnly, joined, compiled, stored, rfl⟩⟩

/-- A page of the oldest animals is read, and all animals of that age are counted. -/
theorem count_matches_find_fauna :
    ∃ q params counted countedParams,
      faunaGateway.findQuery (.ofField "cat_age" (.int 3)) [("age", .descending)] (some 10) 20 =
        .ok (q, params) ∧
      faunaGateway.countQuery (.ofField "cat_age" (.int 3)) = .ok (counted, countedParams) ∧
      q.limit = some 10 ∧ counted.limit = none ∧
      counted.joins = q.joins ∧ counted.filter = q.filter ∧ countedParams = params := by
  obtain ⟨alike, countable⟩ := count_matches_find faunaGateway (.ofField "cat_age" (.int 3))
    [("age", .descending)] (some 10) 20
  obtain ⟨q, params, found, page⟩ : ∃ q params, faunaGateway.findQuery
      (.ofField "cat_age" (.int 3)) [("age", .descending)] (some 10) 20 = .ok (q, params) ∧
      q.limit = some 10 := ⟨_, _, rfl, rfl⟩
  obtain ⟨⟨counted, countedParams⟩, count⟩ := countable.mpr ⟨⟨"id", rfl⟩, _, rfl⟩
  obtain ⟨-, joins, filter, same⟩ := alike q params counted countedParams found count
  refine ⟨q, params, counted, countedParams, found, count, page, ?_, joins, filter, same⟩
  cases count
  rfl

end Gateway
end Relmap
