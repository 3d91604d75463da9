import Relmap.Gateway.Plan
import Relmap.Proofs.Compile.Chains
import Relmap.Proofs.Compile.Scoped

/-!
# Names in queries for rows

Main statement, `findQuery_scoped`: a query for rows that has been planned names its tables apart
and refers only to tables that it or a query around it names, if the alias of the table is not the
name of a subclass and all paths of the criteria are untangled. A path that is not leaves a table
out, `not_scoped_person`.
-/

namespace Relmap

open Sql

namespace Gateway

variable {g : Gateway}

/-- What criteria are compiled against. -/
def scope (g : Gateway) : Scope := ⟨g.registry, g.metadata, g.aliasName⟩

theorem forTable_table (g : Gateway) : g.registry.forTable g.table = .ok g.metadata := by
  unfold Registry.forTable
  rw [show g.registry.find? g.table = some g.metadata from g.registered]

/-- The query reads the table and has its subclasses joined, and refers to joined tables only. -/
structure Provides (g : Gateway) (joined : List String) (q : Select) : Prop where
  rooted : q.Rooted g.aliasName joined
  subclasses : g.scope.subclassTables ⊆ q.exposed

theorem joinSubclass_ok {identifier : String} {q q' : Select} {child : Metadata}
    (ok : g.joinSubclass identifier q child = .ok q') :
    ∃ column, q' = addJoinOnce q ⟨.left, ⟨child.table, child.table⟩,
      .equal (.of g.aliasName identifier) (.of child.table column)⟩ := by
  unfold joinSubclass at ok
  unfold addJoinOnce
  by_cases present : q.isJoined child.table = true
  · rw [if_pos present] at ok
    cases ok
    exact ⟨"", (if_pos present).symm⟩
  · rw [if_neg present] at ok
    obtain ⟨column, -, rfl⟩ := map_eq_ok.mp ok
    exact ⟨column, (if_neg present).symm⟩

/-- Subclasses are joined once each, and by nothing but the table. -/
theorem joinSubclasses_ok {identifier : String} {children : List Metadata} {q q' : Select}
    (ok : children.foldlM (g.joinSubclass identifier) q = .ok q') :
    ∃ joins, q' = joins.foldl addJoinOnce q ∧
      joins.map (·.target.aliasName) = children.map (·.table) ∧ Linking g.aliasName joins := by
  induction children generalizing q with
  | nil =>
    cases ok
    exact ⟨[], rfl, rfl, nofun⟩
  | cons child rest ih =>
    rw [List.foldlM_cons, bind_eq_ok] at ok
    obtain ⟨next, first, later⟩ := ok
    obtain ⟨column, rfl⟩ := joinSubclass_ok first
    obtain ⟨joins, rfl, names, linking⟩ := ih later
    refine ⟨_ :: joins, rfl, by rw [List.map_cons, List.map_cons, names], ?_⟩
    rw [Linking, List.forall_mem_cons]
    refine ⟨fun visible rooted seen => ?_, fun join isJoin => (linking join isJoin).mono ?_⟩
    · exact Expr.scoped_equal rooted (seen List.mem_cons_self)
    · exact List.subset_cons_self _ _

/-- A query starts with its output, the table and the joins of the subclasses. -/
theorem source_ok {columns : List SelectItem} {q : Select} (ok : g.source columns = .ok q) :
    ∃ joins, q = { { Select.empty with columns }.from g.table g.aliasName with joins } := by
  unfold source at ok
  split at ok
  · obtain ⟨identifier, -, ok⟩ := bind_eq_ok.mp ok
    obtain ⟨joins, rfl, -⟩ := joinSubclasses_ok ok
    exact ⟨_, foldl_addJoinOnce_eq _ joins⟩
  · cases ok
    exact ⟨[], rfl⟩

theorem provides_source {columns : List SelectItem} {q : Select} {joined : List String}
    (apart : g.aliasName ∉ g.scope.subclassTables) (known : g.scope.subclassTables ⊆ joined)
    (anchored : ∀ item ∈ columns, Anchored g.aliasName joined item.expr)
    (ok : g.source columns = .ok q) : g.Provides joined q := by
  have alone : ({ Select.empty with columns }.from g.table g.aliasName).Rooted g.aliasName joined :=
    ⟨rfl, List.pairwise_singleton _ _, anchored, nofun, nofun, nofun⟩
  unfold source at ok
  split at ok
  · obtain ⟨identifier, -, ok⟩ := bind_eq_ok.mp ok
    obtain ⟨joins, rfl, names, linking⟩ := joinSubclasses_ok ok
    have tables : joins.map (·.target.aliasName) = g.scope.subclassTables := by
      rw [names, List.map_map]
      rfl
    rw [Linking, tables] at linking
    refine ⟨alone.foldl (fun join isJoin => (linking join isJoin).mono known) (tables ▸ apart), ?_⟩
    exact fun table isTable => (mem_exposed_foldl _ joins).mpr (.inr (tables ▸ isTable))
  · rename_i childless
    cases ok
    have none : g.scope.subclassTables = [] := by
      have noLinks : g.metadata.subclasses = [] := by simpa [Metadata.hasSubclasses] using childless
      simp [Scope.subclassTables, scope, Registry.subclassesOf, noLinks]
    exact ⟨alone, none ▸ List.nil_subset _⟩

theorem anchored_outputItems {joined : List String} (known : g.scope.subclassTables ⊆ joined) :
    ∀ item ∈ g.outputItems, Anchored g.aliasName joined item.expr := by
  intro item isItem visible rooted seen
  rcases List.mem_append.mp isItem with own | inherited
  · obtain ⟨column, -, rfl⟩ := List.mem_map.mp own
    exact Expr.scoped_of rooted
  · obtain ⟨subclass, isSubclass, isItem⟩ := List.mem_flatMap.mp inherited
    obtain ⟨column, -, rfl⟩ := List.mem_map.mp isItem
    exact Expr.scoped_of (seen (known (List.mem_map_of_mem isSubclass)))

theorem anchored_orderExpr {column : String} {e : Expr} {joined : List String}
    (known : g.scope.subclassTables ⊆ joined) (ok : g.orderExpr column = .ok e) :
    Anchored g.aliasName joined e := by
  intro visible rooted seen
  unfold orderExpr at ok
  split at ok
  · cases ok
    exact Expr.scoped_of rooted
  · split at ok
    · rename_i child declares
      cases ok
      obtain ⟨subclass, isSubclass, rfl⟩ := List.mem_map.mp (List.mem_of_find?_eq_some declares)
      exact Expr.scoped_of (seen (known (List.mem_map_of_mem isSubclass)))
    · cases ok

theorem provides_ordered {q q' : Select} {ordering : Ordering} {joined : List String}
    (known : g.scope.subclassTables ⊆ joined) (provides : g.Provides joined q)
    (ok : g.ordered q ordering = .ok q') : g.Provides joined q' := by
  refine foldlM_keeps (fun term _ before after provides ok => ?_) provides ok
  obtain ⟨e, isExpr, rfl⟩ := map_eq_ok.mp ok
  exact ⟨provides.rooted.orderBy (anchored_orderExpr known isExpr) _, provides.subclasses⟩

/-- The query that criteria are added to. -/
theorem provides_findPlan {c : Criteria} {ordering : Ordering} {limit : Option Nat} {offset : Nat}
    {plan : Plan} {joined : List String} (apart : g.aliasName ∉ g.scope.subclassTables)
    (known : g.scope.subclassTables ⊆ joined)
    (ok : g.findPlan c ordering limit offset = .ok plan) : g.Provides joined plan.base := by
  simp only [findPlan, bind_eq_ok, pure_eq_ok] at ok
  obtain ⟨base, isBase, ordered, isOrdered, condition, -, rfl⟩ := ok
  have provides := provides_ordered known
    (provides_source apart known (anchored_outputItems known) isBase) isOrdered
  obtain ⟨source, distinct, columns, joins, filter, order⟩ := provides.rooted
  split <;> exact ⟨⟨source, distinct, columns, joins, filter, order⟩, provides.subclasses⟩

/-- A query for rows is in scope. -/
theorem findQuery_scoped {c : Criteria} {ordering : Ordering} {limit : Option Nat} {offset : Nat}
    {q : Select} {params : List Parameter} (apart : g.aliasName ∉ g.scope.subclassTables)
    (untangles : ∀ l ∈ c.leaves, g.scope.Untangles l)
    (ok : g.findQuery c ordering limit offset = .ok (q, params)) : q.Scoped [] := by
  obtain ⟨plan, planned, queried⟩ := bind_eq_ok.mp ok
  obtain ⟨_, -, same⟩ := map_eq_ok.mp queried
  obtain ⟨rfl, -⟩ := Prod.mk.inj same
  have compiled : g.condition c = .ok plan.condition := by
    simp only [findPlan, bind_eq_ok, pure_eq_ok] at planned
    obtain ⟨_, -, _, -, _, compiled, rfl⟩ := planned
    exact compiled
  obtain ⟨joinsApart, anchored⟩ := anchored_of_compile g.forTable_table untangles compiled
  -- The names known at the end: the subclasses, and what the criteria have joined.
  have known := List.subset_append_left g.scope.subclassTables
    (plan.condition.joins.map (·.target.aliasName))
  have provides := provides_findPlan apart known planned
  have links : ∀ join ∈ plan.condition.joins, Anchored g.aliasName
      (g.scope.subclassTables ++ plan.condition.joins.map (·.target.aliasName)) join.on :=
    fun join isJoin => (joinsApart.linking join isJoin).mono (List.subset_append_right _ _)
  have joined := provides.rooted.foldl links joinsApart.root
  have complete : g.scope.subclassTables ++ plan.condition.joins.map (·.target.aliasName) ⊆
      (plan.condition.joins.foldl addJoinOnce plan.base).exposed := by
    refine List.append_subset.mpr ⟨fun table isTable => ?_, fun table isTable => ?_⟩
    · exact (mem_exposed_foldl _ _).mpr (.inl (provides.subclasses isTable))
    · exact (mem_exposed_foldl _ _).mpr (.inr isTable)
  unfold Condition.applyTo
  cases isExpr : plan.condition.expr with
  | none => exact joined.inScope complete []
  | some e => exact (joined.where (anchored e isExpr)).inScope complete []

/-- Novels under an alias. -/
def novelGateway : Gateway := ⟨⟨novelRegistry, ⟨true, true⟩⟩, novelTable, "n", rfl⟩

theorem findQuery_scoped_novel :
    ∃ q params, novelGateway.findQuery
        (.expression (.comparison "author.country.cities.size" .gt (.int 500)))
        [("id", .descending)] (some 10) 0 = .ok (q, params) ∧ q.Scoped [] := by
  have untangled : ∀ p, novelGateway.scope.resolvePath "author.country.cities.size" = .ok p →
      Untangled "n" p.steps := by
    rintro p ⟨⟩
    refine ⟨by decide, ?_, ?_⟩
    · rintro _ _ ⟨⟩
      decide
    · rintro _ _ ⟨⟩ step member notJoined
      obtain rfl := List.mem_singleton.mp member
      cases notJoined
  have apart : novelGateway.aliasName ∉ novelGateway.scope.subclassTables := by decide
  obtain ⟨q, params, ok⟩ : ∃ q params, novelGateway.findQuery
      (.expression (.comparison "author.country.cities.size" .gt (.int 500)))
      [("id", .descending)] (some 10) 0 = .ok (q, params) := ⟨_, _, rfl⟩
  refine ⟨q, params, ok, findQuery_scoped apart (fun l member _ => ?_) ok⟩
  obtain rfl := List.mem_singleton.mp member
  exact untangled

/-- A link to one row takes every join type. -/
theorem joined_of_toOne {join : JoinType} :
    RelationshipKind.manyToOne = .oneToMany → join = .joined := by
  intro toMany
  cases toMany

def personTable : Metadata :=
  { Metadata.ofColumns "person" [("id", .integer), ("boss", .integer), ("home", .integer)] ["id"]
    with
    entity := some "Person"
    relationships := [⟨"Person", "boss", "boss", "id", .subSelect, .manyToOne, joined_of_toOne⟩,
      ⟨"City", "home", "home", "id", .subSelect, .manyToOne, joined_of_toOne⟩] }

/-- Persons with their boss and the city where they live. -/
def personGateway : Gateway :=
  ⟨⟨⟨[personTable, cityTable], by decide⟩, ⟨true, true⟩⟩, personTable, "person", rfl⟩

/-- The query for persons whose boss lives in a city of a size. The sub-select for bosses, who are
persons as well, does not join the city. -/
def personQuery : Select where
  columns := [⟨.of "person" "id", none⟩, ⟨.of "person" "boss", none⟩, ⟨.of "person" "home", none⟩]
  source := some ⟨"person", "person"⟩
  joins := []
  filter := [.inQuery (.of "person" "boss")
    (((Select.empty.select [.of "person" "id"]).from "person" "person").where
      (.equal (.of "city" "size") (.placeholder "size_0")))]
  order := []
  limit := none
  offset := none

theorem not_scoped_person :
    personGateway.findQuery (.expression (.comparison "boss.home.size" .eq (.int 500))) [] none 0 =
        .ok (personQuery, [⟨"size_0", .int 500, .integer⟩]) ∧
      ¬personQuery.Scoped [] := by
  refine ⟨rfl, ?_⟩
  rintro ⟨-, -, -, filter, -⟩
  cases filter _ List.mem_cons_self with
  | inQuery _ bosses =>
    obtain ⟨-, -, -, filter, -⟩ := bosses
    cases filter _ List.mem_cons_self with
    | compare column _ =>
      cases column with
      | column seen => exact absurd seen (by decide)

end Gateway
end Relmap
