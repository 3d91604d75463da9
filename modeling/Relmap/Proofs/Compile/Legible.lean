import Relmap.Proofs.Compile.Inherited
import Relmap.Proofs.Compile.Parameters
import Relmap.Proofs.Compile.Walk
import Relmap.Proofs.Sql.Legible

/-!
# Compiled conditions are legible

Sub-selects are built from the schema before a condition is added to them. Main statements,
`legible_of_compile`: no compound condition of compiled criteria lacks operands, and no condition
stands where a value belongs; `schematic_of_compile`: what is joined for criteria is linked by
columns.
-/

namespace Relmap

open Sql

theorem schematic_join (h : Hop) (type : JoinType) {q : Select} (schematic : q.Schematic) :
    (h.join type q).Schematic := by
  have link := Expr.schematic_equal h.source h.column h.target h.relationship.relatedId
  cases type with
  | joined =>
    simp only [Hop.join]
    split
    · exact schematic
    · exact schematic.addJoin link
  | subSelect =>
    have opened : (h.opened q).Schematic := by
      unfold Hop.opened
      split
      · exact schematic
      · exact schematic.reading _ _ _
    rw [Hop.join_subSelect]
    split
    · exact opened.addJoin link
    · exact opened

theorem schematic_joinOuter (aliasName : String) (steps : List Step) {q : Select}
    (schematic : q.Schematic) : (joinOuter aliasName steps q).Schematic := by
  unfold joinOuter
  induction steps.takeWhile Step.isJoined generalizing q with
  | nil => exact schematic
  | cons step rest ih => exact ih (schematic_join _ _ schematic)

theorem schematic_joinInner (root : String) (steps : List Step) :
    (joinInner root steps).Schematic := by
  have kept (q : Select) (schematic : q.Schematic) : (steps.foldl (fun q step =>
      (step.hop root).join step.relationship.join q) q).Schematic := by
    induction steps generalizing q with
    | nil => exact schematic
    | cons step rest ih => exact ih _ (schematic_join _ _ schematic)
  exact kept .empty Select.schematic_empty

theorem Scope.schematic_translationQuery (s : Scope) (translation : Metadata)
    (translatableId identifier : String) :
    (s.translationQuery translation translatableId identifier).Schematic :=
  (Select.schematic_empty.reading _ _ _).where (Expr.schematic_equal _ _ _ _)

/-! ## Conditions -/

theorem legible_condition (l : Leaf) (table column name : String) :
    (l.condition (.of table column) (.placeholder name)).Legible := by
  intro node isNode
  unfold Leaf.condition at isNode
  -- The condition itself is legible, and so are a column and a placeholder.
  split at isNode
  · simp only [Expr.of, Expr.nodes, List.mem_cons, List.not_mem_nil, or_false] at isNode
    rcases isNode with rfl | rfl <;> rfl
  · split at isNode
    · simp only [Expr.of, Expr.nodes, List.mem_cons, List.mem_append, List.not_mem_nil,
        or_false] at isNode
      rcases isNode with rfl | rfl | rfl <;> rfl
    · split at isNode
      all_goals
        simp only [Expr.of, Expr.nodes, List.mem_cons, List.mem_append, List.not_mem_nil,
          or_false] at isNode
        rcases isNode with rfl | rfl | rfl <;> rfl

/-- Membership in a schematic query that a legible condition is added to. -/
theorem legible_inQuery {q : Select} {condition : Expr} (schematic : q.Schematic)
    (legible : condition.Legible) (table column : String) :
    (Expr.inQuery (.of table column) (q.where condition)).Legible := by
  intro node isNode
  rcases List.mem_cons.mp isNode with rfl | inside
  · rfl
  rcases List.mem_append.mp inside with subject | inQuery
  · exact Expr.isLegible_of_isSchematic (Expr.schematic_of table column node subject)
  rcases Select.mem_nodes_where.mp inQuery with built | added
  · exact Expr.isLegible_of_isSchematic (schematic node built)
  · exact legible node added

theorem legible_closePath {steps : List Step} {condition closed : Expr}
    (legible : condition.Legible) (ok : closePath steps condition = .ok closed) :
    closed.Legible := by
  unfold closePath at ok
  split at ok
  · cases ok
    exact legible
  · rename_i first rest _
    have schematic := schematic_joinInner first.source (first :: rest)
    cases kind : first.relationship.join with
    | joined =>
      rw [kind] at ok
      cases ok
      exact legible
    | subSelect =>
      simp only [kind, Hop.close] at ok
      split at ok <;> cases ok
      exact legible_inQuery schematic legible _ _

theorem Scope.legible_compareReached {s : Scope} {n : Nat} {l : Leaf} {c : Compared}
    (ok : s.compareReached n l.field l.op l.value = .ok c) : c.condition.Legible := by
  unfold compareReached at ok
  split at ok
  · cases ok
  · cases compareColumn_ok ok
    exact legible_condition l _ _ _
  · obtain ⟨translation, translatableId, identifier, inner, -, compared, rfl⟩ :=
      compareTranslated_ok ok
    cases compareColumn_ok compared
    exact legible_inQuery (s.schematic_translationQuery _ _ _) (legible_condition l _ _ _) _ _
  · obtain ⟨discriminator, child, -, -, rfl, rfl⟩ := compareInherited_ok ok
    exact legible_condition l _ _ _

theorem legible_comparison {s : Scope} (l : Leaf) : l.Yields s fun _ _ e => e.Legible := by
  intro w w' condition walked
  by_cases path : isPath l.field = true
  · obtain ⟨p, inner, -, compared, isClosed, -⟩ := comparison_path_ok path walked
    cases compareColumn_ok compared
    exact legible_closePath (legible_condition l _ _ _) isClosed
  · obtain ⟨c, compared, rfl, -⟩ := comparison_plain_ok path walked
    exact Scope.legible_compareReached compared

/-! ## Criteria -/

theorem legible_induction :
    WalkInduction (fun _ _ e => e.Legible) fun _ _ es => ∀ e ∈ es, e.Legible where
  nil _ := nofun
  cons first later := List.forall_mem_cons.mpr ⟨first, later⟩
  compound connective some each := by
    intro node isNode
    rcases List.mem_cons.mp isNode with rfl | inside
    · unfold Expr.isLegible
      split
      · rename_i empty
        cases empty
        exact absurd rfl some
      · rfl
    · obtain ⟨e, member, isNode⟩ := mem_nodesOfAll.mp inside
      exact each e member node isNode
  not operand := by
    intro node isNode
    rcases List.mem_cons.mp isNode with rfl | inside
    · rfl
    · exact operand node inside

/-- What is joined for a condition is schematic if what was joined before is. -/
theorem schematic_induction :
    WalkInduction (fun w w' _ => w.query.Schematic → w'.query.Schematic) fun w w' _ =>
      w.query.Schematic → w'.query.Schematic where
  nil _ schematic := schematic
  cons first later schematic := later (first schematic)
  compound _ _ each := each
  not operand := operand

theorem schematic_comparison {s : Scope} (l : Leaf) :
    l.Yields s fun w w' _ => w.query.Schematic → w'.query.Schematic := by
  intro w w' condition walked schematic
  by_cases path : isPath l.field = true
  · obtain ⟨p, _, -, -, -, rfl⟩ := comparison_path_ok path walked
    exact schematic_joinOuter s.aliasName p.steps schematic
  · obtain ⟨_, -, -, rfl⟩ := comparison_plain_ok path walked
    exact schematic

/-- The joins of compiled criteria are schematic. -/
theorem schematic_of_compile {r : Registry} {table aliasName : String} {c : Criteria}
    {cond : Condition} (compiled : compile r table aliasName c = .ok cond) :
    ∀ join ∈ cond.joins, ∀ node ∈ join.on.nodes, node.isSchematic = true := by
  obtain ⟨m, w, -, walked, -, joins⟩ := compile_ok compiled
  rw [joins]
  have schematic : w.query.Schematic := by
    rcases schematic_induction.criteria (fun l _ => schematic_comparison l) walked with
      ⟨-, rfl⟩ | ⟨_, -, kept⟩
    · exact Select.schematic_empty
    · exact kept Select.schematic_empty
  exact (Select.schematic_iff.mp schematic).2.1

/-- The condition of compiled criteria is legible. -/
theorem legible_of_compile {r : Registry} {table aliasName : String} {c : Criteria}
    {cond : Condition} (compiled : compile r table aliasName c = .ok cond) :
    ∀ e, cond.expr = some e → e.Legible := by
  obtain ⟨m, w, -, walked, -, -⟩ := compile_ok compiled
  rcases legible_induction.criteria (fun l _ => legible_comparison l) walked with
    ⟨none, -⟩ | ⟨e, isExpr, legible⟩
  · rw [none]
    exact nofun
  · rw [isExpr]
    rintro _ ⟨⟩
    exact legible

/-- Compiled criteria mention just their parameters, which have different names. -/
theorem mentions_of_compile {r : Registry} {table aliasName : String} {c : Criteria}
    {cond : Condition} (compiled : compile r table aliasName c = .ok cond) :
    placeholdersOf cond.expr = cond.params.map (·.name) ∧ (cond.params.map (·.name)).Nodup := by
  obtain ⟨m, w, -, walked, params, -⟩ := compile_ok compiled
  obtain ⟨_, added, -, after, numbered, all⟩ := adds_criteria ⟨r, m, aliasName⟩ c .start
  rw [walked] at after all
  have same : cond.params = added := by simpa [params, Walk.start] using after
  rw [same]
  exact ⟨(all cond.expr rfl).2, numbered.nodup_names⟩

end Relmap
