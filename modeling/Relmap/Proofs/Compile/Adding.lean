import Relmap.Proofs.Compile.Chains
import Relmap.Proofs.Compile.SideBySide

/-!
# Criteria added to a query

Criteria come into a query in two ways: compiled by themselves into a condition that is then applied
to the query, or by a walk on the query itself. A walk by itself leaves out the joins that it has
made before, and one on the query also those that the query has. Main statement, `addCompiled_eq`:
both ways add the same, except that a walk that fails may leave joins in the query.
-/

namespace Relmap

open Sql

/-- The parameters of criteria that have been added to a query, or why they were not, and the query
after it. -/
abbrev Added := Except Error (List Parameter) × Select

/-- Compiles criteria by themselves and applies the condition to a query. -/
def addCompiled (r : Registry) (table aliasName : String) (c : Criteria) (q : Select) : Added :=
  match compile r table aliasName c with
  | .ok cond => (.ok cond.params, cond.applyTo q)
  | .error e => (.error e, q)

/-- Walks along criteria on a query and adds the condition that they yield, if any. -/
def addWalked (r : Registry) (table aliasName : String) (c : Criteria) (q : Select) : Added :=
  match r.scope table aliasName with
  | .error e => (.error e, q)
  | .ok scope =>
    match Walk.criteria scope c ⟨q, []⟩ with
    | (.ok (some e), w) => (.ok w.params, w.query.where e)
    | (.ok none, w) => (.ok w.params, w.query)
    | (.error e, w) => (.error e, w.query)

/-! ## Joins that are added later -/

theorem isJoined_foldl_addJoinOnce {joins : List Join} {q : Select} {name : String}
    (joined : name ∈ joins.map (·.target.aliasName)) :
    (joins.foldl addJoinOnce q).isJoined name = true := by
  rw [Select.isJoined_iff, mem_exposed_foldl]
  exact .inr joined

/-- A join that another query would leave out is also left out where the joins of that query have
been added. -/
theorem addJoinOnce_foldl_joins (base q : Select) (join : Join) :
    addJoinOnce (q.joins.foldl addJoinOnce base) join =
      (addJoinOnce q join).joins.foldl addJoinOnce base := by
  by_cases joined : q.isJoined join.target.aliasName = true
  · have added : join.target.aliasName ∈ q.joins.map (·.target.aliasName) :=
      Select.isJoined_iff.mp joined
    rw [addJoinOnce, addJoinOnce, if_pos joined, if_pos (isJoined_foldl_addJoinOnce added)]
  · have last : (addJoinOnce q join).joins = q.joins ++ [join] := by
      rw [addJoinOnce, if_neg joined]
      rfl
    rw [last, List.foldl_append]
    rfl

/-- Joins that are added to a query by way of another one are those added to the query itself. -/
theorem foldl_addJoinOnce_joins (base q : Select) (joins : List Join) :
    joins.foldl addJoinOnce (q.joins.foldl addJoinOnce base) =
      (joins.foldl addJoinOnce q).joins.foldl addJoinOnce base := by
  induction joins generalizing q with
  | nil => rfl
  | cons join rest ih =>
    rw [List.foldl_cons, addJoinOnce_foldl_joins, ih]
    rfl

/-! ## A walk on a query and a walk by itself -/

/-- The first walk has the parameters of the second, and the joins of its query on top of those of
another query. -/
structure Walk.OnTopOf (base : Select) (w apart : Walk) : Prop where
  query : w.query = apart.query.joins.foldl addJoinOnce base
  params : w.params = apart.params

theorem lockstep_onTopOf (s : Scope) (base : Select) :
    Lockstep s s (Walk.OnTopOf base) fun _ => True := by
  refine ⟨fun field op value w apart walks => ?_, fun _ => trivial, fun _ => trivial⟩
  obtain ⟨query, params⟩ := walks
  unfold Walk.comparison
  split
  · cases s.resolvePath field with
    | error e => exact .stop trivial ⟨query, params⟩
    | ok path =>
      have joined : joinOuter s.aliasName path.steps w.query =
          (joinOuter s.aliasName path.steps apart.query).joins.foldl addJoinOnce base := by
        rw [joinOuter_eq_foldl, joinOuter_eq_foldl, query, foldl_addJoinOnce_joins]
      simp only [params]
      cases path.compare apart.params.length op value with
      | error e => exact .stop trivial ⟨joined, rfl⟩
      | ok c => exact .yield ⟨joined, rfl⟩
  · rw [params]
    cases s.compareReached apart.params.length field op value with
    | error e => exact .stop trivial ⟨query, params⟩
    | ok c => exact .yield ⟨query, congrArg (· ++ c.parameter.toList) params⟩

/-- Criteria that are compiled by themselves and applied add what a walk on the query adds, or fail
with the same error and leave the query as it is. -/
theorem addCompiled_eq (r : Registry) (table aliasName : String) (c : Criteria) (q : Select) :
    addCompiled r table aliasName c q =
      match addWalked r table aliasName c q with
      | (.ok params, walked) => (.ok params, walked)
      | (.error e, _) => (.error e, q) := by
  unfold addCompiled addWalked compile
  cases r.scope table aliasName with
  | error e => rfl
  | ok scope =>
    obtain ⟨outcome, ⟨query, params⟩, -⟩ :=
      (lockstep_onTopOf scope q).criteria c (w := ⟨q, []⟩) (v := .start) ⟨rfl, rfl⟩
    simp only [Bind.bind, Except.bind]
    generalize Walk.criteria scope c ⟨q, []⟩ = walked at outcome query params ⊢
    generalize Walk.criteria scope c .start = compiled at outcome query params ⊢
    obtain ⟨yielded, w⟩ := walked
    obtain ⟨_, apart⟩ := compiled
    obtain rfl := outcome
    cases yielded with
    | error e => rfl
    | ok condition =>
      have joined : apart.query.joins.foldl addJoinOnce q = w.query := query.symm
      have bound : apart.params = w.params := params.symm
      cases condition <;> simp only [pure, Except.pure, Condition.applyTo, joined, bound]

/-- A pattern is not compared with a number. The walk has joined the author by then. -/
def misusedPattern : Criteria := .expression (.comparison "author.id" .contains (.int 3))

example : (addWalked novelRegistry "novel" "n" misusedPattern .empty).2.joins.length = 1 ∧
    (addCompiled novelRegistry "novel" "n" misusedPattern .empty).2.joins.length = 0 := by
  constructor <;> rfl

end Relmap
