import Relmap.Proofs.Compile.Conditions
import Relmap.Proofs.Compile.Joins

/-!
# The meaning of compiled paths

A comparison at the end of a path selects the rows from which the path leads, row by row, to one
that meets the comparison. Main statement, `selected_iff_linked`: whatever the steps are, joined or
by sub-select, and in any order, where the path has different names for all of its tables.
-/

namespace Relmap

open Sql

/-- A path of properties leads from a row of a table to the row `last`, through a row of each table
on the way that is linked with the one before. -/
inductive Linked (r : Registry) (db : Setting) : Metadata → Row → List String → Row → Prop
  | stay (m : Metadata) (row : Row) : Linked r db m row [] row
  | step {m target : Metadata} {row next last : Row} {property column : String}
      {properties : List String} {relationship : Relationship} :
      m.relationshipOf property = .ok relationship →
      r.forEntity relationship.target = .ok target →
      linkColumn m relationship = .ok column →
      next ∈ db.rows target.table →
      db.comparison.relation .eq (row.read column) (next.read relationship.relatedId) = .yes →
      Linked r db target next properties last →
      Linked r db m row (property :: properties) last

/-- A row of the last table of a path meets the comparison. -/
def Leaf.Meets (c : Comparison) (l : Leaf) (row : Row) : Prop :=
  l.truth c (row.read (lastSegment l.field)) = .yes

theorem Leaf.not_meets_null {c : Comparison} {l : Leaf} (strict : l.meetsNull = false) :
    ¬l.Meets c [] :=
  Leaf.truth_null strict

/-- Steps lead from a row to a good one. -/
def LeadTo (db : Setting) : List Step → (Row → Prop) → Row → Prop
  | [], good, row => good row
  | step :: rest, good, row => ∃ next ∈ db.rows step.target.table,
      db.comparison.relation .eq (row.read step.column) (next.read step.relationship.relatedId)
        = .yes ∧ LeadTo db rest good next

variable {db : Setting} {good : Row → Prop}

theorem leadTo_iff_linked {r : Registry} {properties : List String} :
    ∀ {m : Metadata} {source : String} {found : List Step} {row : Row},
      steps r m source properties = .ok found →
        (LeadTo db found good row ↔ ∃ last, Linked r db m row properties last ∧ good last) := by
  induction properties with
  | nil =>
    intro m source found row ok
    cases ok
    constructor
    · intro isGood
      exact ⟨row, .stay m row, isGood⟩
    · rintro ⟨last, ⟨⟩, isGood⟩
      exact isGood
  | cons property rest ih =>
    intro m source found row ok
    simp only [steps, bind_eq_ok, pure_eq_ok] at ok
    obtain ⟨relationship, leads, target, isTarget, column, linked, later, followed, rfl⟩ := ok
    constructor
    · rintro ⟨next, member, equal, ahead⟩
      obtain ⟨last, linkedLater, isGood⟩ := (ih followed).mp ahead
      exact ⟨last, .step leads isTarget linked member equal linkedLater, isGood⟩
    · rintro ⟨last, linkedRows, isGood⟩
      cases linkedRows with
      | step leads' isTarget' linked' member equal linkedLater =>
        obtain rfl := Except.ok.inj (leads.symm.trans leads')
        obtain rfl := Except.ok.inj (isTarget.symm.trans isTarget')
        obtain rfl := Except.ok.inj (linked.symm.trans linked')
        exact ⟨_, member, equal, (ih followed).mpr ⟨last, linkedLater, isGood⟩⟩

theorem leadTo_append (front back : List Step) (row : Row) :
    LeadTo db (front ++ back) good row ↔ LeadTo db front (LeadTo db back good) row := by
  induction front generalizing row with
  | nil => rfl
  | cons step rest ih => simp only [List.cons_append, LeadTo, ih]

/-- A row of nulls, which a left join adds, is linked with no row. -/
theorem not_leadTo_null (strict : ¬good []) (steps : List Step) : ¬LeadTo db steps good [] := by
  cases steps with
  | nil => exact strict
  | cons step rest =>
    rintro ⟨next, _, equal, _⟩
    rw [show Row.read [] step.column = .null from rfl, db.comparison.relation_null_left] at equal
    cases equal

/-! ## Joins and sub-selects -/

/-- Joins find a good row at the end of their steps iff the steps lead to one. The induction goes
over the steps; a row of nulls stands for the failure of all steps after it. -/
theorem exists_joined (db : Setting) (strict : ¬good []) {name : String} {steps : List Step}
    (consecutive : Consecutive name steps) (apart : (name :: targetNames steps).Nodup)
    (names : Bindings) :
    (∃ found ∈ db.joined (steps.map Step.toJoin) names, good (found.row (lastName name steps))) ↔
      LeadTo db steps good (names.row name) := by
  induction steps generalizing name names with
  | nil => simp [Setting.joined, LeadTo, lastName]
  | cons step rest ih =>
    obtain _ | ⟨start, _, consecutive⟩ := consecutive
    obtain ⟨fresh, apart⟩ := List.nodup_cons.mp apart
    have other : step.target.table ≠ name := fun same => fresh (by simp [targetNames, same])
    have linked (row : Row) : db.truth step.toJoin.on ((step.target.table, row) :: names) =
        db.comparison.relation .eq ((names.row name).read step.column)
          (row.read step.relationship.relatedId) := by
      simp [Step.toJoin, Expr.equal, Setting.truth, start, Bindings.row_other _ _ other]
    simp only [List.map_cons, Setting.mem_joined_cons, lastName]
    constructor
    · rintro ⟨found, ⟨extended, isExtended, isFound⟩, isGood⟩
      have ahead := (ih consecutive apart extended).mp ⟨found, isFound, isGood⟩
      rcases Setting.mem_extend.mp isExtended with ⟨next, member, equal, rfl⟩ | ⟨_, rfl, _⟩
      · simp only [toJoin_target, Bindings.row_same, linked] at equal ahead
        exact ⟨next, member, equal, ahead⟩
      · -- No row is linked, and nothing leads on from the row of nulls in its place.
        simp only [toJoin_target, Bindings.row_same] at ahead
        exact absurd ahead (not_leadTo_null strict rest)
    · rintro ⟨next, member, equal, ahead⟩
      rw [← linked] at equal
      have taken : (step.target.table, next) :: names ∈
          db.extend step.toJoin.kind step.toJoin.target (db.truth step.toJoin.on) names :=
        Setting.mem_extend.mpr (.inl ⟨next, member, equal, rfl⟩)
      obtain ⟨found, isFound, isGood⟩ := (ih consecutive apart
        ((step.target.table, next) :: names)).mpr (by rwa [Bindings.row_same])
      exact ⟨found, ⟨_, taken, isFound⟩, isGood⟩

/-- The sub-select of a step finds a row iff the step and those after it lead to a good one. -/
theorem truth_subSelect (strict : ¬good []) {first : Step} {rest : List Step} {condition : Expr}
    (meets : ∀ found : Bindings, db.truth condition found = .yes ↔
      good (found.row (lastName first.target.table rest)))
    (consecutive : Consecutive first.target.table rest)
    (apart : (first.target.table :: targetNames rest).Nodup) (names : Bindings) :
    db.truth (.inQuery (.of first.source first.column)
        ((first.opening.addJoins (rest.map Step.toJoin)).where condition)) names = .yes ↔
      LeadTo db (first :: rest) good (names.row first.source) := by
  have unnamed : first.target.table ∉ (rest.map Step.toJoin).map (·.target.aliasName) := by
    rw [exposed_toJoin]
    exact (List.nodup_cons.mp apart).1
  have read {next : Row} {found : Bindings} (isFound : found ∈ db.joined (rest.map Step.toJoin)
      ((first.target.table, next) :: names)) : found.row first.target.table = next := by
    rw [Bindings.row, Setting.get?_joined isFound unnamed]
    simp [Keyed.get?]
  have selected (found : Bindings) :
      found ∈ db.selected ((first.opening.addJoins (rest.map Step.toJoin)).where condition)
        names ↔
      (∃ next ∈ db.rows first.target.table,
        found ∈ db.joined (rest.map Step.toJoin) ((first.target.table, next) :: names)) ∧
          good (found.row (lastName first.target.table rest)) := by
    rw [Setting.mem_selected]
    simp [Select.where, Select.addJoins, Step.opening, Select.from, Select.select, Select.empty,
      Setting.sourceRows, meets]
  rw [Setting.truth, Setting.among_eq_yes, Setting.output_eq, Setting.value_of]
  constructor
  · rintro ⟨value, among, equal⟩
    obtain ⟨found, isSelected, rfl⟩ := List.mem_map.mp among
    obtain ⟨⟨next, member, isFound⟩, isGood⟩ := (selected found).mp isSelected
    have equal : db.comparison.relation .eq ((names.row first.source).read first.column)
        ((found.row first.target.table).read first.relationship.relatedId) = .yes := equal
    rw [read isFound] at equal
    have ahead := (exists_joined db strict consecutive apart _).mp ⟨found, isFound, isGood⟩
    rw [Bindings.row_same] at ahead
    exact ⟨next, member, equal, ahead⟩
  · rintro ⟨next, member, equal, ahead⟩
    obtain ⟨found, isFound, isGood⟩ := (exists_joined db strict consecutive apart
      ((first.target.table, next) :: names)).mpr (by rwa [Bindings.row_same])
    have isSelected := (selected found).mpr ⟨⟨next, member, isFound⟩, isGood⟩
    refine ⟨_, List.mem_map_of_mem isSelected, ?_⟩
    rw [← read isFound] at equal
    exact equal

/-- Closing a path asks for rows along the steps from the first by sub-select on. -/
theorem truth_closePath (strict : ¬good []) {name : String} {steps : List Step}
    {condition closed : Expr} (consecutive : Consecutive name steps)
    (apart : (name :: targetNames steps).Nodup)
    (meets : ∀ found : Bindings, db.truth condition found = .yes ↔
      good (found.row (lastName name steps)))
    (ok : closePath steps condition = .ok closed) (names : Bindings) :
    db.truth closed names = .yes ↔
      LeadTo db (innerSteps steps) good
        (names.row (lastName name (steps.takeWhile Step.isJoined))) := by
  have split := outer_append_inner steps
  cases inner : innerSteps steps with
  | nil =>
    rw [inner, List.append_nil] at split
    obtain rfl : condition = closed := by simpa [closePath, inner] using ok
    rw [meets, split]
    rfl
  | cons first rest =>
    rw [inner] at split
    rw [← split] at consecutive apart meets
    have inside := nodup_lastName apart
    have onward := (consecutive_append consecutive).2
    obtain ⟨start, column, consecutive⟩ :
        first.source = lastName name (steps.takeWhile Step.isJoined) ∧
          (first.isJoined = false → first.column = first.relationship.foreignKey) ∧
            Consecutive first.target.table rest := by
      cases onward with
      | cons start column consecutive => exact ⟨start, column, consecutive⟩
    rw [← start] at inside ⊢
    rw [closePath_subSelect inner (.cons rfl column consecutive) inside ok]
    refine truth_subSelect strict (fun found => ?_) consecutive (List.nodup_cons.mp inside).2 names
    rw [meets, lastName_append, lastName]

/-! ## Compiled paths -/

/-- A query on a table with compiled criteria selects what their joins make of a row of the table
and their condition holds for. -/
theorem mem_selected_applyTo (db : Setting) {cond : Condition} {closed : Expr}
    (isExpr : cond.expr = some closed) (apart : (cond.joins.map (·.target.aliasName)).Nodup)
    (table aliasName : String) (found : Bindings) :
    found ∈ db.selected (cond.applyTo (Select.empty.from table aliasName)) [] ↔
      (∃ row ∈ db.rows table, found ∈ db.joined cond.joins [(aliasName, row)]) ∧
        db.truth closed found = .yes := by
  have unjoined : ((Select.empty.from table aliasName).exposed ++
      cond.joins.map (·.target.aliasName)).Nodup := apart
  rw [Condition.applyTo, isExpr, foldl_addJoinOnce unjoined, Setting.mem_selected]
  simp [Select.where, Select.addJoins, Select.from, Select.empty, Setting.sourceRows]

/-- A query with the joins and the closed condition of steps selects a row iff the steps lead from
it to a good one. -/
theorem selected_iff_leadTo (strict : ¬good []) {table aliasName : String} {steps : List Step}
    {cond : Condition} {condition closed : Expr} (consecutive : Consecutive aliasName steps)
    (apart : (aliasName :: targetNames steps).Nodup)
    (meets : ∀ found : Bindings, db.truth condition found = .yes ↔
      good (found.row (lastName aliasName steps)))
    (ok : closePath steps condition = .ok closed) (isExpr : cond.expr = some closed)
    (isJoins : cond.joins = (joinOuter aliasName steps .empty).joins) {row : Row}
    (stored : row ∈ db.rows table) :
    (∃ found ∈ db.selected (cond.applyTo (Select.empty.from table aliasName)) [],
        found.get? aliasName = some row) ↔ LeadTo db steps good row := by
  have split := outer_append_inner steps
  have outer : (aliasName :: targetNames (steps.takeWhile Step.isJoined)).Nodup :=
    apart.sublist ((((List.takeWhile_prefix Step.isJoined).map _).sublist).cons_cons _)
  obtain ⟨fresh, outerApart⟩ := List.nodup_cons.mp outer
  have isOuter : cond.joins = (steps.takeWhile Step.isJoined).map Step.toJoin := by
    have distinct : (Select.empty.exposed ++
        ((steps.takeWhile Step.isJoined).map Step.toJoin).map (·.target.aliasName)).Nodup := by
      rwa [exposed_toJoin]
    rw [isJoins, joinOuter_eq_foldl, foldl_addJoinOnce distinct]
    rfl
  have exposed : cond.joins.map (·.target.aliasName) =
      targetNames (steps.takeWhile Step.isJoined) := by
    rw [isOuter, exposed_toJoin]
  have selected := mem_selected_applyTo db isExpr (exposed ▸ outerApart) table aliasName
  have keeps {start found : Bindings} (isFound : found ∈ db.joined cond.joins start) :
      found.get? aliasName = start.get? aliasName :=
    Setting.get?_joined isFound (exposed ▸ fresh)
  have holds := truth_closePath strict consecutive apart meets ok
  have null : ¬LeadTo db (innerSteps steps) good [] := not_leadTo_null strict _
  have reached := exists_joined db null (consecutive_append (split.symm ▸ consecutive)).1 outer
    [(aliasName, row)]
  -- Joins and condition take up the steps where the other leaves off.
  rw [Bindings.row_same, ← leadTo_append, split, ← isOuter] at reached
  rw [← reached]
  constructor
  · rintro ⟨found, isSelected, isRow⟩
    obtain ⟨⟨root, _, isFound⟩, isTrue⟩ := (selected found).mp isSelected
    obtain rfl : root = row := by simpa [keeps isFound, Keyed.get?] using isRow
    exact ⟨found, isFound, (holds found).mp isTrue⟩
  · rintro ⟨found, isFound, ahead⟩
    refine ⟨found, (selected found).mpr ⟨⟨row, stored, isFound⟩, (holds found).mpr ahead⟩, ?_⟩
    simp [keeps isFound, Keyed.get?]

/-- A comparison at the end of a path, compiled and added to a query on the table that the path
starts from, selects the rows from which the path leads to a row that meets the comparison. A test
for null is left out: a left join meets it where no row is linked. -/
theorem selected_iff_linked {r : Registry} {table aliasName field : String} {op : Operator}
    {value : Value} {m : Metadata} {tables : List Metadata} {cond : Condition}
    (registered : r.forTable table = .ok m) (path : isPath field = true)
    (follows : Follows r m (pathParts field).1 tables)
    (apart : (aliasName :: tables.map (·.table)).Nodup)
    (strict : (Leaf.mk field op value).meetsNull = false)
    (lists : value.isList = true → (Leaf.mk field op value).takesList = true)
    (compiled : compile r table aliasName (.expression (.comparison field op value)) = .ok cond)
    (bound : db.params = cond.params) {row : Row} (stored : row ∈ db.rows table) :
    (∃ found ∈ db.selected (cond.applyTo (Select.empty.from table aliasName)) [],
        found.get? aliasName = some row) ↔
      ∃ last, Linked r db m row (pathParts field).1 last ∧
        (Leaf.mk field op value).Meets db.comparison last := by
  have knows := knows_of_compile compiled bound
  obtain ⟨m', w, registered', walked, params, joins⟩ := compile_ok compiled
  obtain rfl : m = m' := by simpa [registered] using registered'
  obtain ⟨closed, walked, isExpr⟩ := Walked.map_eq_ok walked
  obtain ⟨p, inner, resolved, compared, isClosed, rfl⟩ := comparison_path_ok path walked
  obtain ⟨isSteps, isLast, isField, _⟩ := Scope.resolvePath_ok resolved
  obtain rfl := follows.unique (steps_follow isSteps)
  have apart : (aliasName :: targetNames p.steps).Nodup := by
    simpa [targetNames, Function.comp_def] using apart
  have meets (found : Bindings) : db.truth inner.condition found = .yes ↔
      (Leaf.mk field op value).Meets db.comparison (found.row (lastName aliasName p.steps)) := by
    have some := steps_ne_nil (pathParts_fst_ne_nil path) isSteps
    cases compareColumn_ok (l := ⟨field, op, value⟩) compared
    rw [truth_condition lists fun q member => knows q (by
      simpa [params, Walk.start] using member), Setting.value_of, isLast,
      lastTable_name m aliasName some, isField, Leaf.Meets]
  rw [← leadTo_iff_linked isSteps]
  exact selected_iff_leadTo (Leaf.not_meets_null strict) (consecutive_of_steps isSteps) apart meets
    isClosed isExpr.symm joins stored

def cityTable : Metadata :=
  { Metadata.ofColumns "city"
      [("id", .integer), ("country", .integer), ("size", .integer)] ["id"] with
    entity := some "City" }

def countryTable : Metadata :=
  { Metadata.ofColumns "country" [("id", .integer)] ["id"] with
    entity := some "Country", relationships := [.toMany "City" "cities" "country"] }

def authorTable : Metadata :=
  { Metadata.ofColumns "author" [("id", .integer), ("country", .integer)] ["id"] with
    entity := some "Author"
    relationships := [⟨"Country", "country", "country", "id", .subSelect, .manyToOne, nofun⟩] }

def novelTable : Metadata :=
  { Metadata.ofColumns "novel" [("id", .integer), ("author", .integer)] ["id"] with
    relationships := [.toOne "Author" "author" "author" "id"] }

/-- Novels with their author, who is joined, the author's country, which is looked for in a
sub-select, and its cities. -/
def novelRegistry : Registry := ⟨[novelTable, authorTable, countryTable, cityTable], by decide⟩

/-- A novel, its author, the country and a city of it. -/
def novelSetting : Setting where
  rows
    | "novel" => [[("id", .int 1), ("author", .int 2)]]
    | "author" => [[("id", .int 2), ("country", .int 3)]]
    | "country" => [[("id", .int 3)]]
    | "city" => [[("country", .int 3), ("size", .int 900)]]
    | _ => []
  comparison := .ofIntegers
  params := [⟨"size_0", .int 500, .integer⟩]

theorem selected_iff_linked_novel :
    ∃ cond, compile novelRegistry "novel" "n"
        (.expression (.comparison "author.country.cities.size" .gt (.int 500))) = .ok cond ∧
      ∃ found ∈ novelSetting.selected (cond.applyTo (Select.empty.from "novel" "n")) [],
        found.get? "n" = some [("id", .int 1), ("author", .int 2)] := by
  obtain ⟨cond, compiled, bound⟩ : ∃ cond, compile novelRegistry "novel" "n"
      (.expression (.comparison "author.country.cities.size" .gt (.int 500))) = .ok cond ∧
        novelSetting.params = cond.params := ⟨_, rfl, rfl⟩
  have follows : Follows novelRegistry novelTable ["author", "country", "cities"]
      [authorTable, countryTable, cityTable] :=
    .step rfl rfl (.step rfl rfl (.step rfl rfl (.stay _)))
  have linked : Linked novelRegistry novelSetting novelTable [("id", .int 1), ("author", .int 2)]
      ["author", "country", "cities"] [("country", .int 3), ("size", .int 900)] :=
    .step rfl rfl rfl (.head _) rfl (.step rfl rfl rfl (.head _) rfl
      (.step rfl rfl rfl (.head _) rfl (.stay _ _)))
  exact ⟨cond, compiled, (selected_iff_linked rfl rfl follows (by decide) rfl (by decide) compiled
    bound (.head _)).mpr ⟨_, linked, rfl⟩⟩
end Relmap
