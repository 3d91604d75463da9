import Relmap.Proofs.Compile.Legible
import Relmap.Proofs.Sql.Uses

/-!
# Uses in compiled criteria

A comparison asks for membership or compares with one value, whatever value it is given. Main
statement, `listsInPlace_of_compile`: compiled criteria keep lists in their places just if lists stand
only with operators that take them and have no lists among their items.
-/

namespace Relmap

open Sql

namespace Leaf

/-- A list stands with an operator that takes one, and has no list among its items. -/
structure KeepsLists (l : Leaf) : Prop where
  list : l.value.isList = true → l.takesList = true
  items : l.value.isNested = false

instance (l : Leaf) : Decidable l.KeepsLists :=
  decidable_of_iff ((l.value.isList = true → l.takesList = true) ∧ l.value.isNested = false)
    ⟨fun ⟨list, items⟩ => ⟨list, items⟩, fun ⟨list, items⟩ => ⟨list, items⟩⟩

theorem keepsLists_of_isNullTest {l : Leaf} (test : l.isNullTest = true) : l.KeepsLists := by
  obtain ⟨field, op, value⟩ := l
  cases value with
  | null => exact ⟨nofun, rfl⟩
  | _ => cases op <;> cases test

/-- Patterns are made of texts, so that lists are bound as they are. -/
theorem lists_boundValue (l : Leaf) :
    l.boundValue.isList = l.value.isList ∧ l.boundValue.isNested = l.value.isNested := by
  obtain ⟨field, op, value⟩ := l
  cases value with
  | text s =>
    simp only [boundValue]
    split <;> exact ⟨rfl, rfl⟩
  | _ => exact ⟨rfl, rfl⟩

theorem asksMembership_of_isList {l : Leaf} (isList : l.value.isList = true) :
    l.asksMembership = l.takesList := by
  obtain ⟨field, op, value⟩ := l
  simp only [asksMembership, takesList, isList]
  cases op <;> rfl

/-- The parameter of a comparison is used in its place just if the comparison keeps lists in theirs. -/
theorem inPlace_iff {l : Leaf} {params : List Parameter} {p : Parameter}
    (found : Sql.parameter? params p.name = some p) (bound : p.value = l.boundValue) :
    (⟨p.name, l.asksMembership⟩ : Use).InPlace params ↔ l.KeepsLists := by
  obtain ⟨isList, isNested⟩ := l.lists_boundValue
  rw [Use.inPlace_iff found, bound, isList, isNested]
  constructor
  · rintro ⟨list, items⟩
    exact ⟨fun given => asksMembership_of_isList given ▸ list given, items⟩
  · rintro ⟨list, items⟩
    exact ⟨fun given => (asksMembership_of_isList given).trans (list given), items⟩

end Leaf

/-! ## Uses by comparisons -/

/-- Uses of the parameters of comparisons, one for each comparison that takes one, in their order. -/
inductive Placed : List Leaf → List Use → List Parameter → Prop
  | nil : Placed [] [] []
  | test {l : Leaf} {leaves : List Leaf} {uses : List Use} {params : List Parameter} :
      l.isNullTest = true → Placed leaves uses params → Placed (l :: leaves) uses params
  | bound {l : Leaf} {p : Parameter} {leaves : List Leaf} {uses : List Use}
      {params : List Parameter} :
      p.value = l.boundValue → Placed leaves uses params →
      Placed (l :: leaves) (⟨p.name, l.asksMembership⟩ :: uses) (p :: params)

namespace Placed

variable {leaves more : List Leaf} {uses others : List Use} {params added : List Parameter}

theorem append (placed : Placed leaves uses params) (later : Placed more others added) :
    Placed (leaves ++ more) (uses ++ others) (params ++ added) := by
  induction placed with
  | nil => exact later
  | test isTest _ ih => exact .test isTest ih
  | bound value _ ih => exact .bound value ih

/-- The parameters, found by their names, are all used in their places just if the comparisons keep
lists in theirs. -/
theorem inPlace_iff (placed : Placed leaves uses params)
    (known : ∀ p ∈ params, parameter? added p.name = some p) :
    (∀ use ∈ uses, use.InPlace added) ↔ ∀ l ∈ leaves, l.KeepsLists := by
  induction placed with
  | nil => exact iff_of_true nofun nofun
  | test isTest _ ih =>
    rw [ih known, List.forall_mem_cons]
    exact (and_iff_right (Leaf.keepsLists_of_isNullTest isTest)).symm
  | bound value _ ih =>
    obtain ⟨found, known⟩ := List.forall_mem_cons.mp known
    rw [List.forall_mem_cons, List.forall_mem_cons, Leaf.inPlace_iff found value, ih known]

end Placed

theorem placed_condition (l : Leaf) (table column name : String) (n : Nat) (type : ColumnType) :
    Placed [l] (l.condition (.of table column) (.placeholder (parameterName name n))).uses
      (l.parameter? name n type).toList := by
  have used {e : Expr} (uses : e.uses = [⟨parameterName name n, l.asksMembership⟩]) :
      Placed [l] e.uses [⟨parameterName name n, l.boundValue,
        if l.op.isPattern then .string else type⟩] := by
    rw [uses]
    exact .bound (p := ⟨parameterName name n, l.boundValue, _⟩) rfl .nil
  unfold Leaf.condition Leaf.parameter?
  split
  · rename_i isTest
    exact .test isTest .nil
  · split
    · rename_i asks
      exact used (by rw [asks]; rfl)
    · rename_i asks
      rw [Bool.not_eq_true] at asks
      split <;> exact used (by rw [asks]; rfl)

/-! ## Conditions inside queries -/

namespace Sql.Select

/-- A condition on a query brings its uses to those of the query. -/
theorem uses_where (q : Select) (e : Expr) :
    ∃ before after, q.uses = before ++ after ∧ (q.where e).uses = before ++ e.uses ++ after := by
  obtain ⟨columns, source, joins, filter, order, limit, offset⟩ := q
  refine ⟨columnUses columns ++ joinUses joins ++ usesOfAll filter, orderUses order, rfl, ?_⟩
  simp [Select.where, Select.uses, usesOfAll_eq]

theorem uses_addJoin (q : Select) {join : Join} (unused : join.on.uses = []) :
    (q.addJoin join).uses = q.uses := by
  obtain ⟨columns, source, joins, filter, order, limit, offset⟩ := q
  obtain ⟨kind, target, on⟩ := join
  have appended : joinUses (joins ++ [⟨kind, target, on⟩]) = joinUses joins := by
    induction joins with
    | nil => simpa [joinUses] using unused
    | cons first rest ih =>
      obtain ⟨kind', target', on'⟩ := first
      rw [List.cons_append, joinUses, joinUses, ih]
  simp only [Select.addJoin, Select.uses, appended]

theorem uses_foldl {q : Select} {joins : List Join} (unused : ∀ join ∈ joins, join.on.uses = []) :
    (joins.foldl addJoinOnce q).uses = q.uses := by
  induction joins generalizing q with
  | nil => rfl
  | cons join rest ih =>
    obtain ⟨here, later⟩ := List.forall_mem_cons.mp unused
    rw [List.foldl_cons, ih later]
    unfold addJoinOnce
    split
    · rfl
    · exact q.uses_addJoin here

theorem Schematic.uses_eq_nil {q : Select} (schematic : q.Schematic) : q.uses = [] :=
  List.map_eq_nil_iff.mp (q.names_uses.trans schematic.placeholders_eq_nil)

end Sql.Select

theorem uses_inQuery {q : Select} (schematic : q.Schematic) (condition : Expr)
    (table column : String) :
    (Expr.inQuery (.of table column) (q.where condition)).uses = condition.uses := by
  obtain ⟨before, after, outside, all⟩ := q.uses_where condition
  obtain ⟨rfl, rfl⟩ := List.append_eq_nil_iff.mp (outside.symm.trans schematic.uses_eq_nil)
  exact all.trans (List.append_nil _)

theorem uses_closePath {steps : List Step} {condition closed : Expr}
    (ok : closePath steps condition = .ok closed) : closed.uses = condition.uses := by
  unfold closePath at ok
  split at ok
  · cases ok
    rfl
  · rename_i first rest _
    have schematic := schematic_joinInner first.source (first :: rest)
    cases kind : first.relationship.join with
    | joined =>
      rw [kind] at ok
      cases ok
      rfl
    | subSelect =>
      simp only [kind, Hop.close] at ok
      split at ok <;> cases ok
      exact uses_inQuery schematic condition _ _

theorem Scope.placed_compareReached {s : Scope} {n : Nat} {l : Leaf} {c : Compared}
    (ok : s.compareReached n l.field l.op l.value = .ok c) :
    Placed [l] c.condition.uses c.parameter.toList := by
  unfold compareReached at ok
  split at ok
  · cases ok
  · cases compareColumn_ok ok
    exact placed_condition l _ _ _ _ _
  · obtain ⟨translation, translatableId, identifier, inner, -, compared, rfl⟩ :=
      compareTranslated_ok ok
    cases compareColumn_ok compared
    rw [uses_inQuery (s.schematic_translationQuery _ _ _)]
    exact placed_condition l _ _ _ _ _
  · obtain ⟨discriminator, child, -, -, rfl, rfl⟩ := compareInherited_ok ok
    exact placed_condition l _ _ _ _ _

/-! ## Criteria -/

/-- A walk adds parameters whose uses are those of a condition. -/
def AddsUses (uses : List Use) (leaves : List Leaf) (w w' : Walk) : Prop :=
  ∃ added, w'.params = w.params ++ added ∧ Placed leaves uses added

theorem uses_comparison {s : Scope} (l : Leaf) :
    l.Yields s fun w w' e => AddsUses e.uses [l] w w' := by
  intro w w' condition walked
  by_cases path : isPath l.field = true
  · obtain ⟨p, inner, -, compared, isClosed, rfl⟩ := comparison_path_ok path walked
    rw [uses_closePath isClosed]
    cases compareColumn_ok compared
    exact ⟨_, rfl, placed_condition l _ _ _ _ _⟩
  · obtain ⟨c, compared, rfl, rfl⟩ := comparison_plain_ok path walked
    exact ⟨_, rfl, Scope.placed_compareReached compared⟩

theorem uses_induction :
    LeafInduction (fun leaves w w' e => AddsUses e.uses leaves w w') fun leaves w w' es =>
      AddsUses (usesOfAll es) leaves w w' where
  nil w := ⟨[], (List.append_nil _).symm, .nil⟩
  cons := by
    rintro leaves more w w' w'' condition conditions ⟨added, params, placed⟩ ⟨later, after, others⟩
    exact ⟨added ++ later, by rw [after, params, List.append_assoc], placed.append others⟩
  compound _ _ each := each
  not operand := operand

/-- The uses in a condition. -/
def usesOf (condition : Option Expr) : List Use := (condition.map Expr.uses).getD []

/-- Compiled criteria use the parameters of their comparisons. -/
theorem placed_of_compile {r : Registry} {table aliasName : String} {c : Criteria}
    {cond : Condition} (compiled : compile r table aliasName c = .ok cond) :
    Placed c.leaves (usesOf cond.expr) cond.params := by
  obtain ⟨m, w, -, walked, params, -⟩ := compile_ok compiled
  rcases uses_induction.criteria (fun l _ => uses_comparison l) walked with
    ⟨absent, rfl, none⟩ | ⟨e, isExpr, added, after, placed⟩
  · rw [absent, none, params]
    exact .nil
  · rw [isExpr, params, after]
    exact placed

/-- Criteria bring their uses to those of the query that they are added to. -/
theorem mem_uses_applyTo {r : Registry} {table aliasName : String} {c : Criteria}
    {cond : Condition} {q : Select} {use : Use} (compiled : compile r table aliasName c = .ok cond) :
    use ∈ (cond.applyTo q).uses ↔ use ∈ q.uses ∨ use ∈ usesOf cond.expr := by
  have joined : (cond.joins.foldl addJoinOnce q).uses = q.uses := by
    refine Select.uses_foldl fun join isJoin => List.map_eq_nil_iff.mp (join.on.names_uses.trans ?_)
    rw [join.on.placeholders_eq]
    exact Expr.filterMap_placeholder?_eq_nil (schematic_of_compile compiled join isJoin)
  rw [← joined]
  unfold Condition.applyTo
  cases cond.expr with
  | none => exact (or_iff_left List.not_mem_nil).symm
  | some e =>
    obtain ⟨before, after, outside, all⟩ := (cond.joins.foldl addJoinOnce q).uses_where e
    show use ∈ (Select.where _ e).uses ↔ _ ∨ use ∈ e.uses
    rw [outside, all, List.mem_append, List.mem_append, List.mem_append]
    exact or_right_comm

/-- A query with compiled criteria keeps lists in their places just if it does without them and their
comparisons do. -/
theorem listsInPlace_of_compile {r : Registry} {table aliasName : String} {c : Criteria}
    {cond : Condition} (compiled : compile r table aliasName c = .ok cond) (q : Select) :
    Request.ListsInPlace ⟨.query (cond.applyTo q), cond.params⟩ ↔
      (∀ use ∈ q.uses, use.InPlace cond.params) ∧ ∀ l ∈ c.leaves, l.KeepsLists := by
  have known := fun p => parameter?_of_nodup (p := p) (mentions_of_compile compiled).2
  rw [← (placed_of_compile compiled).inPlace_iff known, ← List.forall_mem_append]
  refine forall_congr' fun use => imp_congr_left ?_
  rw [List.mem_append]
  exact mem_uses_applyTo compiled

end Relmap
