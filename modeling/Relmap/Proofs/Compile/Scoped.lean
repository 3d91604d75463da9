import Relmap.Proofs.Compile.Inherited
import Relmap.Proofs.Compile.Joins
import Relmap.Proofs.Compile.Walk
import Relmap.Proofs.Sql.Scoped

/-!
# Names in compiled criteria

The names that conditions use, in the order in which joins make them known. A path is untangled if
no table of a query that it is joined to goes under the name of another one, and if its sub-select
is gone on with from inside. Main statement, `anchored_of_compile`: where all paths are untangled,
criteria use only the names of the table, of its subclasses and of their own joins.
-/

namespace Relmap

open Sql

/-- The expression is in scope where the table of the given name and joined ones are visible. -/
def Anchored (name : String) (joined : List String) (e : Expr) : Prop :=
  ∀ visible, name ∈ visible → joined ⊆ visible → e.Scoped visible

theorem Anchored.mono {name : String} {joined more : List String} {e : Expr}
    (anchored : Anchored name joined e) (grows : joined ⊆ more) : Anchored name more e :=
  fun visible rooted seen => anchored visible rooted (List.Subset.trans grows seen)

theorem anchored_of (name column : String) (joined : List String) :
    Anchored name joined (.of name column) :=
  fun _ rooted _ => Expr.scoped_of rooted

/-- Joins link only tables that they name, and the one of the given name. -/
def Linking (name : String) (joins : List Join) : Prop :=
  ∀ join ∈ joins, Anchored name (joins.map (·.target.aliasName)) join.on

theorem Linking.foldl {name : String} {q : Select} {joins : List Join}
    (before : Linking name q.joins) (added : Linking name joins) :
    Linking name (joins.foldl addJoinOnce q).joins := by
  intro join isJoin
  rcases mem_joins_foldl joins isJoin with early | later
  · exact (before join early).mono fun _ isName => (mem_exposed_foldl q joins).mpr (.inl isName)
  · exact (added join later).mono fun _ isName => (mem_exposed_foldl q joins).mpr (.inr isName)

theorem linking_toJoin {name : String} {steps : List Step} (consecutive : Consecutive name steps) :
    Linking name (steps.map Step.toJoin) := by
  intro join isJoin visible rooted seen
  rw [exposed_toJoin] at seen
  obtain ⟨step, isStep, rfl⟩ := List.mem_map.mp isJoin
  have all : name :: targetNames steps ⊆ visible := List.cons_subset.mpr ⟨rooted, seen⟩
  exact Expr.scoped_equal (all (source_mem consecutive isStep)) (seen (List.mem_map_of_mem isStep))

/-! ## Queries -/

/-- The query reads the table of the given name, and refers to no others than those that are joined,
all of them under different names. -/
structure Sql.Select.Rooted (name : String) (joined : List String) (q : Select) : Prop where
  source : q.source.map (·.aliasName) = some name
  distinct : (name :: q.exposed).Nodup
  columns : ∀ item ∈ q.columns, Anchored name joined item.expr
  joins : ∀ join ∈ q.joins, Anchored name joined join.on
  filter : ∀ e ∈ q.filter, Anchored name joined e
  order : ∀ term ∈ q.order, Anchored name joined term.expr

namespace Sql.Select.Rooted

variable {name : String} {joined : List String} {q : Select}

theorem inScope (rooted : q.Rooted name joined) (complete : joined ⊆ q.exposed)
    (outer : List String) : q.Scoped outer := by
  have names : q.names = name :: q.exposed := by
    obtain ⟨table, isSource, isName⟩ := Option.map_eq_some_iff.mp rooted.source
    rw [Select.names, isSource, ← isName]
    rfl
  have root : name ∈ q.names ++ outer := by
    rw [names]
    exact List.mem_cons_self
  have seen : joined ⊆ q.names ++ outer := by
    rw [names]
    exact List.subset_append_of_subset_left _ (List.subset_cons_of_subset _ complete)
  exact .level (names ▸ rooted.distinct)
    (fun item isItem => rooted.columns item isItem _ root seen)
    (fun join isJoin => rooted.joins join isJoin _ root seen)
    (fun e isFilter => rooted.filter e isFilter _ root seen)
    (fun term isTerm => rooted.order term isTerm _ root seen)

theorem foldl (rooted : q.Rooted name joined) {joins : List Join}
    (added : ∀ join ∈ joins, Anchored name joined join.on)
    (apart : name ∉ joins.map (·.target.aliasName)) :
    (joins.foldl addJoinOnce q).Rooted name joined := by
  obtain ⟨unnamed, distinct⟩ := List.nodup_cons.mp rooted.distinct
  have source : (joins.foldl addJoinOnce q).source = q.source := by rw [foldl_addJoinOnce_eq]
  have columns : (joins.foldl addJoinOnce q).columns = q.columns := by rw [foldl_addJoinOnce_eq]
  have filter : (joins.foldl addJoinOnce q).filter = q.filter := by rw [foldl_addJoinOnce_eq]
  have order : (joins.foldl addJoinOnce q).order = q.order := by rw [foldl_addJoinOnce_eq]
  refine ⟨source ▸ rooted.source, List.nodup_cons.mpr ⟨?_, nodup_exposed_foldl joins distinct⟩,
    columns ▸ rooted.columns, ?_, filter ▸ rooted.filter, order ▸ rooted.order⟩
  · rw [mem_exposed_foldl]
    exact fun taken => taken.elim unnamed apart
  · intro join isJoin
    rcases mem_joins_foldl joins isJoin with early | later
    · exact rooted.joins join early
    · exact added join later

theorem «where» (rooted : q.Rooted name joined) {e : Expr} (anchored : Anchored name joined e) :
    (q.where e).Rooted name joined := by
  refine ⟨rooted.source, rooted.distinct, rooted.columns, rooted.joins, ?_, rooted.order⟩
  intro condition isFilter
  rcases List.mem_append.mp isFilter with before | here
  · exact rooted.filter condition before
  · exact List.mem_singleton.mp here ▸ anchored

theorem orderBy (rooted : q.Rooted name joined) {e : Expr} (anchored : Anchored name joined e)
    (direction : Direction) : (q.orderBy e direction).Rooted name joined := by
  refine ⟨rooted.source, rooted.distinct, rooted.columns, rooted.joins, rooted.filter, ?_⟩
  intro term isTerm
  rcases List.mem_append.mp isTerm with before | here
  · exact rooted.order term before
  · exact List.mem_singleton.mp here ▸ anchored

end Sql.Select.Rooted

/-! ## Conditions -/

theorem anchored_condition (l : Leaf) (placeholder : String) {name : String}
    {joined : List String} {column : Expr} (anchored : Anchored name joined column) :
    Anchored name joined (l.condition column (.placeholder placeholder)) := by
  intro visible rooted seen
  have inScope := anchored visible rooted seen
  unfold Leaf.condition
  split
  · exact .isNull inScope
  · split
    · exact .inList inScope .placeholder
    · split
      · exact .compare inScope .placeholder
      · exact .like inScope .placeholder

namespace Scope

/-- The tables of the subclasses. -/
def subclassTables (s : Scope) : List String :=
  (s.registry.subclassesOf s.metadata).map (·.2.table)

variable {s : Scope}

/-- The sub-select for a translated column also refers to the row around it. -/
theorem scoped_translationQuery {translation : Metadata} {translatableId identifier : String}
    {condition : Expr} {visible : List String} (rooted : s.aliasName ∈ visible)
    (anchored : Anchored translationAlias [] condition) :
    ((s.translationQuery translation translatableId identifier).where condition).Scoped visible := by
  have inside : translationAlias ∈ [translationAlias] ++ visible := List.mem_cons_self
  refine .level (List.pairwise_singleton _ _) ?_ nofun ?_ nofun
  · intro item isItem
    obtain rfl := List.mem_singleton.mp isItem
    exact Expr.scoped_of inside
  · intro e isFilter
    rcases List.mem_pair.mp isFilter with rfl | rfl
    · exact Expr.scoped_equal inside (List.mem_append_right _ rooted)
    · exact anchored _ inside (List.nil_subset _)

theorem anchored_compareReached {n : Nat} {l : Leaf} {c : Compared}
    (ok : s.compareReached n l.field l.op l.value = .ok c) :
    Anchored s.aliasName s.subclassTables c.condition := by
  unfold compareReached at ok
  split at ok
  · cases ok
  · cases compareColumn_ok ok
    exact anchored_condition l _ (anchored_of _ _ _)
  · obtain ⟨translation, translatableId, identifier, inner, -, compared, rfl⟩ :=
      compareTranslated_ok ok
    cases compareColumn_ok compared
    intro visible rooted _
    exact .inQuery (Expr.scoped_of rooted)
      (scoped_translationQuery rooted (anchored_condition l _ (anchored_of _ _ _)))
  · obtain ⟨discriminator, child, -, isSubclass, rfl, rfl⟩ := compareInherited_ok ok
    refine anchored_condition l _ fun visible _ seen => ?_
    exact Expr.scoped_of (seen (List.mem_map_of_mem isSubclass))

end Scope

/-! ## Paths -/

/-- No table of the path goes under the name of another one in the query that it is joined to, and
no sub-select after the first is left from the name that the first was left from. -/
structure Untangled (aliasName : String) (steps : List Step) : Prop where
  root : aliasName ∉ targetNames (steps.takeWhile Step.isJoined)
  opened : ∀ {first : Step} {rest : List Step}, innerSteps steps = first :: rest →
    first.target.table ∉ targetNames rest
  inside : ∀ {first : Step} {rest : List Step}, innerSteps steps = first :: rest →
    ∀ step ∈ rest, step.isJoined = false → step.source ≠ first.source

theorem rooted_opening (step : Step) (joined : List String) :
    step.opening.Rooted step.target.table joined := by
  refine ⟨rfl, List.pairwise_singleton _ _, ?_, nofun, nofun, nofun⟩
  intro item isItem
  obtain rfl := List.mem_singleton.mp isItem
  exact anchored_of _ _ _

/-- A condition on the last table of a path, closed over the path, is one on the tables that are
joined outside. -/
theorem anchored_closePath {name : String} {steps : List Step} {condition closed : Expr}
    (consecutive : Consecutive name steps) (untangled : Untangled name steps)
    (anchored : Anchored (lastName name steps) [] condition)
    (ok : closePath steps condition = .ok closed) :
    Anchored name (targetNames (steps.takeWhile Step.isJoined)) closed := by
  have split := outer_append_inner steps
  cases inner : innerSteps steps with
  | nil =>
    rw [inner, List.append_nil] at split
    obtain rfl : condition = closed := by simpa [closePath, inner] using ok
    rw [split]
    intro visible rooted seen
    have last : lastName name steps ∈ visible :=
      List.cons_subset.mpr ⟨rooted, seen⟩ (lastName_mem name steps)
    exact anchored visible last (List.nil_subset _)
  | cons first rest =>
    rw [inner] at split
    have onward := (consecutive_append (split.symm ▸ consecutive)).2
    rw [closePath_eq inner onward (untangled.inside inner) ok]
    -- The sub-select is reached from a name outside and is itself about the names after it only.
    obtain _ | ⟨start, -, consecutive⟩ := onward
    intro visible rooted seen
    have source : first.source ∈ visible :=
      start ▸ List.cons_subset.mpr ⟨rooted, seen⟩ (lastName_mem name _)
    have links := linking_toJoin consecutive
    have apart := untangled.opened inner
    rw [Linking, exposed_toJoin] at links
    rw [← exposed_toJoin] at apart
    refine .inQuery (Expr.scoped_of source)
      ((((rooted_opening first _).foldl links apart).where ?_).inScope ?_ visible)
    · intro visible rooted seen
      refine anchored visible ?_ (List.nil_subset _)
      have last : lastName name steps = lastName first.target.table rest := by
        conv_lhs => rw [← split, lastName_append, lastName]
      rw [last]
      exact List.cons_subset.mpr ⟨rooted, seen⟩ (lastName_mem _ rest)
    · intro table isTarget
      rw [← exposed_toJoin] at isTarget
      exact (mem_exposed_foldl _ _).mpr (.inr isTarget)

/-! ## Criteria -/

/-- The joins of a query link tables that go under other names than the table of the scope. -/
structure Scope.JoinsApart (s : Scope) (joins : List Join) : Prop where
  root : s.aliasName ∉ joins.map (·.target.aliasName)
  linking : Linking s.aliasName joins

/-- A walk only adds joins, and its conditions use the names that it has added. -/
structure Scope.Grows (s : Scope) (w w' : Walk) (conditions : List Expr) : Prop where
  exposed : w.query.exposed ⊆ w'.query.exposed
  joins : s.JoinsApart w.query.joins → s.JoinsApart w'.query.joins
  anchored : ∀ e ∈ conditions, Anchored s.aliasName (s.subclassTables ++ w'.query.exposed) e

/-- The path of a comparison is untangled, if it is one. -/
def Scope.Untangles (s : Scope) (l : Leaf) : Prop :=
  isPath l.field = true → ∀ p, s.resolvePath l.field = .ok p → Untangled s.aliasName p.steps

variable {s : Scope}

theorem grows_induction : WalkInduction (fun w w' e => s.Grows w w' [e]) s.Grows where
  nil w := ⟨List.Subset.refl _, id, nofun⟩
  cons first later := by
    refine ⟨List.Subset.trans first.exposed later.exposed, later.joins ∘ first.joins, ?_⟩
    rw [List.forall_mem_cons]
    refine ⟨(first.anchored _ List.mem_cons_self).mono ?_, later.anchored⟩
    exact List.append_subset.mpr ⟨List.subset_append_left _ _,
      List.subset_append_of_subset_right _ later.exposed⟩
  compound connective _ each := by
    refine ⟨each.exposed, each.joins, ?_⟩
    rw [List.forall_mem_singleton]
    exact fun visible rooted seen => .compound fun e member =>
      each.anchored e member visible rooted seen
  not operand := by
    refine ⟨operand.exposed, operand.joins, ?_⟩
    rw [List.forall_mem_singleton]
    exact fun visible rooted seen => .not
      (operand.anchored _ List.mem_cons_self visible rooted seen)

theorem grows_comparison {l : Leaf} (untangles : s.Untangles l) :
    l.Yields s fun w w' e => s.Grows w w' [e] := by
  intro w w' condition walked
  by_cases path : isPath l.field = true
  · obtain ⟨p, inner, resolved, compared, isClosed, rfl⟩ := comparison_path_ok path walked
    obtain ⟨isSteps, isLast, -, -⟩ := Scope.resolvePath_ok resolved
    cases compareColumn_ok compared
    have consecutive := consecutive_of_steps isSteps
    have untangled := untangles path p resolved
    have outer : Consecutive s.aliasName (p.steps.takeWhile Step.isJoined) :=
      (consecutive_append ((outer_append_inner p.steps).symm ▸ consecutive)).1
    have last : p.table.table = lastName s.aliasName p.steps := by
      rw [isLast, lastTable_name _ _ (steps_ne_nil (pathParts_fst_ne_nil path) isSteps)]
    have seen {name : String} : name ∈ (joinOuter s.aliasName p.steps w.query).exposed ↔
        name ∈ w.query.exposed ∨ name ∈ targetNames (p.steps.takeWhile Step.isJoined) := by
      rw [joinOuter_eq_foldl, mem_exposed_foldl, exposed_toJoin]
    refine ⟨fun name isName => seen.mpr (.inl isName), fun apart => ⟨?_, ?_⟩, ?_⟩
    · exact fun taken => (seen.mp taken).elim apart.root untangled.root
    · rw [joinOuter_eq_foldl]
      exact apart.linking.foldl (linking_toJoin outer)
    · rw [List.forall_mem_singleton]
      refine (anchored_closePath consecutive untangled ?_ isClosed).mono fun name isName => ?_
      · exact anchored_condition l _ (last ▸ anchored_of _ _ _)
      · exact List.mem_append_right _ (seen.mpr (.inr isName))
  · obtain ⟨c, compared, rfl, rfl⟩ := comparison_plain_ok path walked
    refine ⟨List.Subset.refl _, id, ?_⟩
    rw [List.forall_mem_singleton]
    exact (Scope.anchored_compareReached compared).mono (List.subset_append_left _ _)

/-- The joins and the expression of compiled criteria of which all paths are untangled. -/
theorem anchored_of_compile {r : Registry} {table aliasName : String} {m : Metadata}
    {c : Criteria} {cond : Condition} (registered : r.forTable table = .ok m)
    (untangles : ∀ l ∈ c.leaves, Scope.Untangles ⟨r, m, aliasName⟩ l)
    (compiled : compile r table aliasName c = .ok cond) :
    Scope.JoinsApart ⟨r, m, aliasName⟩ cond.joins ∧
      ∀ e, cond.expr = some e → Anchored aliasName
        (Scope.subclassTables ⟨r, m, aliasName⟩ ++ cond.joins.map (·.target.aliasName)) e := by
  obtain ⟨m', w, registered', walked, -, joins⟩ := compile_ok compiled
  obtain rfl : m = m' := Except.ok.inj (registered.symm.trans registered')
  rw [joins]
  have start : Scope.JoinsApart ⟨r, m, aliasName⟩ Walk.start.query.joins := ⟨nofun, nofun⟩
  rcases grows_induction.criteria (fun l member => grows_comparison (untangles l member)) walked with
    ⟨none, rfl⟩ | ⟨e, some, grows⟩
  · rw [none]
    exact ⟨start, nofun⟩
  · rw [some]
    exact ⟨grows.joins start, fun _ same => Option.some.inj same ▸
      grows.anchored e List.mem_cons_self⟩

end Relmap
