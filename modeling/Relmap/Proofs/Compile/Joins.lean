import Relmap.Compile.Condition
import Relmap.Proofs.Compile.Path

/-!
# Joins of a path

The steps of a path as joins, and the queries that they are added to: the steps up to the first by
sub-select to the outer query, `joinOuter_eq_foldl`, and those after it to the sub-select that it
opens, `joinInner_eq_foldl`. Where all names differ, no join is left out, `foldl_addJoinOnce`.
-/

namespace Relmap

open Sql

/-- The names of the tables that steps arrive at. -/
def targetNames (steps : List Step) : List String := steps.map fun step => step.target.table

/-- The name of the table at the end of steps from a table with the given name. -/
def lastName (name : String) : List Step → String
  | [] => name
  | step :: rest => lastName step.target.table rest

/-- Steps that start from a table with the given name and go on where the one before has arrived. A
step by sub-select leaves its table through a foreign key. -/
inductive Consecutive : String → List Step → Prop
  | nil (name : String) : Consecutive name []
  | cons {name : String} {step : Step} {rest : List Step} :
      step.source = name →
      (step.isJoined = false → step.column = step.relationship.foreignKey) →
      Consecutive step.target.table rest →
      Consecutive name (step :: rest)

theorem isJoined_eq_false {step : Step} :
    step.isJoined = false ↔ step.relationship.join = .subSelect := by
  unfold Step.isJoined
  cases step.relationship.join <;> decide

theorem consecutive_of_steps {r : Registry} {properties : List String} :
    ∀ {m : Metadata} {source : String} {found : List Step},
      steps r m source properties = .ok found → Consecutive source found := by
  induction properties with
  | nil =>
    intro m source found ok
    cases ok
    exact .nil source
  | cons property rest ih =>
    intro m source found ok
    simp only [steps, bind_eq_ok, pure_eq_ok] at ok
    obtain ⟨relationship, _, target, _, column, linked, later, followed, rfl⟩ := ok
    refine .cons rfl (fun notJoined => ?_) (ih followed)
    have toOne : relationship.isToMany = false := by
      cases many : relationship.isToMany with
      | false => rfl
      | true =>
        have joined := relationship.joined_of_toMany (by simpa [Relationship.isToMany] using many)
        rw [isJoined_eq_false, joined] at notJoined
        cases notJoined
    simpa [linkColumn, toOne, eq_comm] using linked

theorem lastName_append (name : String) (front back : List Step) :
    lastName name (front ++ back) = lastName (lastName name front) back := by
  induction front generalizing name with
  | nil => rfl
  | cons step rest ih => exact ih step.target.table

theorem consecutive_append {name : String} {front back : List Step} :
    Consecutive name (front ++ back) →
      Consecutive name front ∧ Consecutive (lastName name front) back := by
  induction front generalizing name with
  | nil => exact fun consecutive => ⟨.nil name, consecutive⟩
  | cons step rest ih =>
    rintro (_ | ⟨start, column, consecutive⟩)
    exact ⟨.cons start column (ih consecutive).1, (ih consecutive).2⟩

theorem lastName_mem (name : String) (steps : List Step) :
    lastName name steps ∈ name :: targetNames steps := by
  induction steps generalizing name with
  | nil => simp [lastName]
  | cons step rest ih =>
    exact List.mem_cons_of_mem _ (ih step.target.table)

theorem nodup_lastName {name : String} {front back : List Step}
    (apart : (name :: targetNames (front ++ back)).Nodup) :
    (lastName name front :: targetNames back).Nodup := by
  have all : (name :: targetNames front ++ targetNames back).Nodup := by
    simpa [targetNames] using apart
  obtain ⟨_, later, disjoint⟩ := List.nodup_append.mp all
  exact List.nodup_cons.mpr
    ⟨fun taken => disjoint _ (lastName_mem name front) _ taken rfl, later⟩

theorem source_mem {name : String} {steps : List Step} (consecutive : Consecutive name steps)
    {step : Step} (member : step ∈ steps) : step.source ∈ name :: targetNames steps := by
  induction consecutive with
  | nil => cases member
  | cons start _ _ ih =>
    rcases List.mem_cons.mp member with rfl | later
    · exact start ▸ List.mem_cons_self
    · exact List.mem_cons_of_mem _ (ih later)

theorem lastTable_table (m : Metadata) (steps : List Step) :
    (lastTable m steps).table = lastName m.table steps := by
  rw [lastTable_eq]
  induction steps generalizing m with
  | nil => rfl
  | cons step rest ih =>
    simpa only [List.map_cons, List.getLastD_cons, lastName] using ih step.target

/-- The table at the end of a path is known by the name that the path arrives at. -/
theorem lastTable_name (m : Metadata) (name : String) {steps : List Step} (some : steps ≠ []) :
    (lastTable m steps).table = lastName name steps := by
  cases steps with
  | nil => exact absurd rfl some
  | cons step rest => rw [lastTable_table, lastName, lastName]

/-! ## Adding joins -/

/-- The step as a join. -/
def Step.toJoin (step : Step) : Join :=
  ⟨if step.isJoined then .left else .inner, ⟨step.target.table, step.target.table⟩,
    .equal (.of step.source step.column) (.of step.target.table step.relationship.relatedId)⟩

theorem toJoin_target (step : Step) :
    step.toJoin.target = ⟨step.target.table, step.target.table⟩ := rfl

theorem exposed_toJoin (steps : List Step) :
    (steps.map Step.toJoin).map (·.target.aliasName) = targetNames steps := by
  simp [targetNames, Step.toJoin]

namespace Sql.Select

def addJoins (q : Select) (joins : List Join) : Select := { q with joins := q.joins ++ joins }

/-- The names that the joins of a query expose. -/
def exposed (q : Select) : List String := q.joins.map (·.target.aliasName)

theorem isJoined_iff {q : Select} {name : String} : q.isJoined name = true ↔ name ∈ q.exposed := by
  simp [isJoined, exposed]

theorem exposed_addJoin (q : Select) (join : Join) :
    (q.addJoin join).exposed = q.exposed ++ [join.target.aliasName] := by
  simp [addJoin, exposed]

end Sql.Select

section

variable (q : Select) (joins : List Join)

theorem addJoinOnce_eq (join : Join) :
    addJoinOnce q join = { q with joins := (addJoinOnce q join).joins } := by
  unfold addJoinOnce
  split
  · cases q
    rfl
  · rfl

/-- Adding joins leaves the other parts of a query as they are. -/
theorem foldl_addJoinOnce_eq :
    joins.foldl addJoinOnce q = { q with joins := (joins.foldl addJoinOnce q).joins } := by
  induction joins generalizing q with
  | nil =>
    cases q
    rfl
  | cons join rest ih =>
    rw [List.foldl_cons, ih, addJoinOnce_eq]

theorem mem_exposed_addJoinOnce (join : Join) {name : String} :
    name ∈ (addJoinOnce q join).exposed ↔ name ∈ q.exposed ∨ name = join.target.aliasName := by
  unfold addJoinOnce
  split
  · rename_i present
    rw [Select.isJoined_iff] at present
    exact ⟨.inl, fun either => either.elim id fun same => same ▸ present⟩
  · rw [Select.exposed_addJoin, List.mem_append, List.mem_singleton]

theorem mem_exposed_foldl {name : String} :
    name ∈ (joins.foldl addJoinOnce q).exposed ↔
      name ∈ q.exposed ∨ name ∈ joins.map (·.target.aliasName) := by
  induction joins generalizing q with
  | nil => simp
  | cons join rest ih =>
    rw [List.foldl_cons, ih, mem_exposed_addJoinOnce, List.map_cons, List.mem_cons, or_assoc]

/-- A join is added only under a name that no other has. -/
theorem nodup_exposed_foldl {q : Select} (apart : q.exposed.Nodup) :
    (joins.foldl addJoinOnce q).exposed.Nodup := by
  induction joins generalizing q with
  | nil => exact apart
  | cons join rest ih =>
    refine ih ?_
    unfold addJoinOnce
    split
    · exact apart
    · rename_i absent
      rw [Select.isJoined_iff] at absent
      rw [Select.exposed_addJoin, List.nodup_append]
      refine ⟨apart, by simp, ?_⟩
      rintro name present _ new rfl
      exact absent (List.mem_singleton.mp new ▸ present)

theorem mem_joins_foldl {q : Select} {join : Join}
    (added : join ∈ (joins.foldl addJoinOnce q).joins) : join ∈ q.joins ∨ join ∈ joins := by
  induction joins generalizing q with
  | nil => exact .inl added
  | cons first rest ih =>
    rcases ih added with early | later
    · unfold addJoinOnce at early
      split at early
      · exact .inl early
      · rcases List.mem_append.mp early with before | here
        · exact .inl before
        · exact .inr (List.mem_singleton.mp here ▸ List.mem_cons_self)
    · exact .inr (List.mem_cons_of_mem _ later)

end

/-- Joins under names of their own are all added. -/
theorem foldl_addJoinOnce {joins : List Join} {q : Select}
    (apart : (q.exposed ++ joins.map (·.target.aliasName)).Nodup) :
    joins.foldl addJoinOnce q = q.addJoins joins := by
  induction joins generalizing q with
  | nil =>
    cases q
    simp [Select.addJoins]
  | cons join rest ih =>
    have absent : ¬q.isJoined join.target.aliasName = true := by
      rw [Select.isJoined_iff]
      intro taken
      exact (List.nodup_append.mp apart).2.2 _ taken _ (by simp) rfl
    rw [List.foldl_cons, addJoinOnce, if_neg absent, ih]
    · simp [Select.addJoin, Select.addJoins]
    · simpa [Select.exposed_addJoin] using apart

/-! ## The joins of hops -/

/-- A joined step is joined once. -/
theorem join_joined {step : Step} (joined : step.isJoined = true) (root : String) (q : Select) :
    (step.hop root).join .joined q = addJoinOnce q step.toJoin := by
  unfold addJoinOnce Step.toJoin
  rw [if_pos joined]
  rfl

/-- A step is joined once to a sub-select that is open, unless it goes on by sub-select from the
name that the sub-select is reached from. -/
theorem join_inside {step : Step} {root : String} {q : Select} (opened : q.hasColumns = true)
    (inside : step.isJoined = false → step.source ≠ root) :
    (step.hop root).join step.relationship.join q = addJoinOnce q step.toJoin := by
  cases join : step.relationship.join with
  | joined => exact join_joined (by simp [Step.isJoined, join]) root q
  | subSelect =>
    have apart : step.source ≠ root := inside (isJoined_eq_false.mpr join)
    simp only [Hop.join, Step.hop, opened, if_true, bne_iff_ne.mpr apart, Bool.true_and,
      addJoinOnce, Step.toJoin, Step.isJoined, join]
    cases q.isJoined step.target.table <;> rfl

/-- The joins of the steps up to the first by sub-select. -/
theorem joinOuter_eq_foldl (aliasName : String) (steps : List Step) (q : Select) :
    joinOuter aliasName steps q =
      ((steps.takeWhile Step.isJoined).map Step.toJoin).foldl addJoinOnce q := by
  rw [joinOuter, List.foldl_map]
  refine List.foldl_ext _ _ q fun q step member => ?_
  exact join_joined (List.all_eq_true.mp List.all_takeWhile step member) aliasName q

/-- The sub-select that a step opens, with no joins yet. -/
def Step.opening (step : Step) : Select :=
  (Select.empty.select [.of step.target.table step.relationship.relatedId]).from
    step.target.table step.target.table

/-- The sub-select that a step opens, with the joins of the steps after it. -/
theorem joinInner_eq_foldl {first : Step} {rest : List Step} (notJoined : first.isJoined = false)
    (inside : ∀ step ∈ rest, step.isJoined = false → step.source ≠ first.source) :
    joinInner first.source (first :: rest) =
      (rest.map Step.toJoin).foldl addJoinOnce first.opening := by
  have subSelect := isJoined_eq_false.mp notJoined
  have opens : (first.hop first.source).join first.relationship.join .empty = first.opening := by
    simp [subSelect, Hop.join, Step.hop, Select.hasColumns, Select.empty, Step.opening]
  rw [joinInner, List.foldl_cons, opens, List.foldl_map]
  -- From here on every step finds the sub-select open.
  have opened : first.opening.hasColumns = true := rfl
  generalize first.opening = q at opened
  induction rest generalizing q with
  | nil => rfl
  | cons step rest ih =>
    have here := join_inside opened (inside step List.mem_cons_self)
    rw [List.foldl_cons, List.foldl_cons, here]
    refine ih (fun later member => inside later (List.mem_cons_of_mem _ member)) _ ?_
    rw [addJoinOnce_eq]
    exact opened

theorem outer_append_inner (steps : List Step) :
    steps.takeWhile Step.isJoined ++ innerSteps steps = steps :=
  List.takeWhile_append_dropWhile

theorem isJoined_of_innerSteps {steps rest : List Step} {first : Step}
    (inner : innerSteps steps = first :: rest) : first.isJoined = false := by
  have head := List.head?_dropWhile_not Step.isJoined steps
  simpa [← innerSteps.eq_1, inner] using head

/-- The condition on the outer query of a path that goes on by sub-select. -/
theorem closePath_eq {name : String} {steps rest : List Step} {first : Step}
    {condition closed : Expr} (inner : innerSteps steps = first :: rest)
    (consecutive : Consecutive name (first :: rest))
    (inside : ∀ step ∈ rest, step.isJoined = false → step.source ≠ first.source)
    (ok : closePath steps condition = .ok closed) :
    closed = .inQuery (.of first.source first.column)
      (((rest.map Step.toJoin).foldl addJoinOnce first.opening).where condition) := by
  have notJoined := isJoined_of_innerSteps inner
  have subSelect := isJoined_eq_false.mp notJoined
  obtain _ | ⟨_, column, consecutive⟩ := consecutive
  have opened : ((rest.map Step.toJoin).foldl addJoinOnce first.opening).hasColumns = true := by
    rw [foldl_addJoinOnce_eq]
    rfl
  simp only [closePath, inner, joinInner_eq_foldl notJoined inside, subSelect, Hop.close,
    opened, if_true, Except.ok.injEq] at ok
  rw [← ok, column notJoined]
  rfl

/-- Where all names of the path differ, the sub-select has the joins of all steps after the first. -/
theorem closePath_subSelect {steps rest : List Step} {first : Step} {condition closed : Expr}
    (inner : innerSteps steps = first :: rest)
    (consecutive : Consecutive first.source (first :: rest))
    (apart : (first.source :: targetNames (first :: rest)).Nodup)
    (ok : closePath steps condition = .ok closed) :
    closed = .inQuery (.of first.source first.column)
      ((first.opening.addJoins (rest.map Step.toJoin)).where condition) := by
  obtain ⟨unvisited, distinct⟩ := List.nodup_cons.mp apart
  rw [closePath_eq inner consecutive ?_ ok, foldl_addJoinOnce]
  · rw [exposed_toJoin]
    exact (List.nodup_cons.mp distinct).2
  · obtain _ | ⟨_, _, consecutive⟩ := consecutive
    rintro step member - same
    exact unvisited (same ▸ source_mem consecutive member)

end Relmap
