import Relmap.Proofs.Compile.Parameters
import Relmap.Proofs.Compile.Walk

/-!
# The meaning of compiled criteria

Criteria on the columns of a table and of its translation are compiled to a condition that says of
a row what the criteria say. Main statement, `truth_compile`: in three-valued logic, for every tree
of comparisons. A translated column is looked for in a sub-select, which never is unknown.
-/

namespace Relmap

open Sql

namespace Scope

/-- The field is not read as a path, and is a column of the table itself or of its translation. -/
def IsOwn (s : Scope) (field : String) : Prop :=
  isPath field = false ∧ ∃ type origin, s.registry.resolve s.metadata field = .ok ⟨type, origin⟩ ∧
    ∀ table, origin ≠ .inherited table

/-- A comparison of an own column, with a list only where the operator takes one. -/
structure Suits (s : Scope) (l : Leaf) : Prop where
  own : s.IsOwn l.field
  lists : l.value.isList = true → l.takesList = true

/-- What a comparison says of a row of the table. Of a translated column it says that some
translation of the row meets it. -/
def leafTruth (s : Scope) (db : Setting) (row : Row) (l : Leaf) : Truth :=
  match s.registry.resolve s.metadata l.field, s.translationLink with
  | .ok ⟨_, .direct⟩, _ => l.truth db.comparison (row.read l.field)
  | .ok ⟨_, .translation _⟩, .ok (translation, translatableId, identifier) =>
    .ofBool <| (db.rows translation.table).any fun translated =>
      db.comparison.relation .eq (translated.read translatableId) (row.read identifier) == .yes &&
        l.truth db.comparison (translated.read l.field) == .yes
  | _, _ => .unknown

end Scope

/-- Names under which the row of a scope can be compared: no sub-select hides it. -/
structure Exposes (s : Scope) (db : Setting) (names : Bindings) (row : Row) : Prop where
  bound : names.get? s.aliasName = some row
  unhidden : s.aliasName ≠ translationAlias
  symmetric : ∀ v w, db.comparison.relation .eq v w = db.comparison.relation .eq w v

/-- The parameters are found by their names. -/
def Sql.Setting.Knows (db : Setting) (params : List Parameter) : Prop :=
  ∀ p ∈ params, parameter? db.params p.name = some p

variable {s : Scope} {db : Setting} {names : Bindings} {row : Row}

/-! ## Comparisons -/

theorem Exposes.row_alias (exposes : Exposes s db names row) : names.row s.aliasName = row :=
  Bindings.row_of_get? exposes.bound

theorem Exposes.row_behind (exposes : Exposes s db names row) (translated : Row) :
    Bindings.row ((translationAlias, translated) :: names) s.aliasName = row := by
  rw [Bindings.row_other _ _ exposes.unhidden.symm, exposes.row_alias]

/-- The sub-select for a translated column finds the translations of the row that meet the
condition. -/
theorem Exposes.mem_translations (exposes : Exposes s db names row) {translation : Metadata}
    {translatableId identifier : String} {condition : Expr} {found : Bindings} :
    found ∈ db.selected ((s.translationQuery translation translatableId identifier).where condition)
        names ↔
      ∃ translated ∈ db.rows translation.table,
        found = (translationAlias, translated) :: names ∧
        db.comparison.relation .eq (translated.read translatableId) (row.read identifier) = .yes ∧
        db.truth condition found = .yes := by
  simp only [Setting.mem_selected, Scope.translationQuery, Select.where, Select.from,
    Select.select, Select.empty, Setting.sourceRows, Setting.joined, List.mem_map,
    List.mem_singleton, List.nil_append, List.cons_append, List.forall_mem_cons, forall_eq,
    Expr.equal, Setting.truth, Setting.value_of]
  constructor
  · rintro ⟨⟨_, ⟨translated, member, rfl⟩, rfl⟩, linked, meets⟩
    rw [Bindings.row_same, exposes.row_behind] at linked
    exact ⟨translated, member, rfl, linked, meets⟩
  · rintro ⟨translated, member, rfl, linked, meets⟩
    refine ⟨⟨_, ⟨translated, member, rfl⟩, rfl⟩, ?_, meets⟩
    rw [Bindings.row_same, exposes.row_behind]
    exact linked

/-- The identifier is among the translations that meet a condition iff there is one, and it is never
unknown whether it is. -/
theorem Exposes.truth_translated (exposes : Exposes s db names row) (translation : Metadata)
    (translatableId identifier : String) (condition : Expr) :
    db.truth (.inQuery (.of s.aliasName identifier)
        ((s.translationQuery translation translatableId identifier).where condition)) names =
      .ofBool ((db.rows translation.table).any fun translated =>
        db.comparison.relation .eq (translated.read translatableId) (row.read identifier) == .yes &&
          db.truth condition ((translationAlias, translated) :: names) == .yes) := by
  have read (translated : Row) :
      db.firstValue ((s.translationQuery translation translatableId identifier).where
        condition).columns ((translationAlias, translated) :: names) =
          translated.read translatableId := by
    simp [Scope.translationQuery, Select.where, Select.from, Select.select, Setting.firstValue]
  have equal : ∀ value ∈ db.output
      ((s.translationQuery translation translatableId identifier).where condition) names,
      db.comparison.relation .eq (row.read identifier) value = .yes := by
    intro value among
    rw [Setting.output_eq, List.mem_map] at among
    obtain ⟨found, selected, rfl⟩ := among
    obtain ⟨translated, _, rfl, linked, _⟩ := exposes.mem_translations.mp selected
    rw [read, exposes.symmetric, linked]
  -- The sub-select is filtered by its link, so the identifier equals each of its values.
  rw [Setting.truth, Setting.value_of, exposes.row_alias, Setting.among_of_forall equal,
    Setting.output_eq]
  congr 1
  rw [Bool.eq_iff_iff, List.any_eq_true]
  simp only [Bool.and_eq_true, beq_iff_eq, Bool.not_eq_true', List.isEmpty_map,
    List.isEmpty_eq_false_iff_exists_mem, exposes.mem_translations]
  constructor
  · rintro ⟨_, translated, member, rfl, linked, meets⟩
    exact ⟨translated, member, linked, meets⟩
  · rintro ⟨translated, member, linked, meets⟩
    exact ⟨_, translated, member, rfl, linked, meets⟩

theorem truth_compareReached (exposes : Exposes s db names row) {n : Nat} {l : Leaf} {c : Compared}
    (suits : s.Suits l) (ok : s.compareReached n l.field l.op l.value = .ok c)
    (knows : db.Knows c.parameter.toList) :
    db.truth c.condition names = s.leafTruth db row l := by
  unfold Scope.compareReached at ok
  split at ok
  · cases ok
  · rename_i type resolved
    cases compareColumn_ok ok
    rw [truth_condition suits.lists (by simpa [Setting.Knows] using knows), Setting.value_of,
      exposes.row_alias]
    simp only [Scope.leafTruth, resolved]
  · rename_i type _ resolved
    obtain ⟨translation, translatableId, identifier, inner, linked, compared, rfl⟩ :=
      Scope.compareTranslated_ok ok
    cases compareColumn_ok compared
    rw [exposes.truth_translated]
    simp only [truth_condition suits.lists (by simpa [Setting.Knows] using knows),
      Setting.value_of, Bindings.row_same, Scope.leafTruth, resolved, linked]
  · rename_i type table resolved
    obtain ⟨_, type', origin, resolved', notInherited⟩ := suits.own
    rw [resolved] at resolved'
    cases resolved'
    exact absurd rfl (notInherited table)

theorem truth_comparison (exposes : Exposes s db names row) {l : Leaf} (suits : s.Suits l)
    {w w' : Walk} {condition : Expr}
    (walked : w.comparison s l.field l.op l.value = (.ok condition, w'))
    (knows : db.Knows w'.params) : db.truth condition names = s.leafTruth db row l := by
  have plain : ¬isPath l.field = true := by simp [suits.own.1]
  obtain ⟨c, compared, rfl, rfl⟩ := comparison_plain_ok plain walked
  exact truth_compareReached exposes suits compared fun p member =>
    knows p (List.mem_append_right _ member)

/-! ## Trees and maps -/

theorem knows_of_adds {α : Type} {w : Walk} {leaves : List Leaf} {placeholders : α → List String}
    {r : Walked α} (adds : Adds s w leaves placeholders r) (knows : db.Knows r.2.params) :
    db.Knows w.params := by
  obtain ⟨_, added, _, params, _⟩ := adds
  intro p member
  exact knows p (by simp [params, member])

mutual

theorem truth_expression (exposes : Exposes s db names row) : ∀ (e : Expression) {w w' : Walk}
    {condition : Expr}, (∀ l ∈ e.leaves, s.Suits l) →
      Walk.expression s e w = (.ok condition, w') → db.Knows w'.params →
        db.truth condition names = e.truth (s.leafTruth db row)
  | .comparison field op value, w, w', condition, suits, walked, knows => by
    rw [Expression.truth]
    exact truth_comparison exposes (l := ⟨field, op, value⟩)
      (suits ⟨field, op, value⟩ (by simp [Expression.leaves])) walked knows
  | .composite .and [], w, w', condition, suits, walked, knows
  | .composite .or [], w, w', condition, suits, walked, knows
  | .composite .not [], w, w', condition, suits, walked, knows
  | .composite .not (_ :: _ :: _), w, w', condition, suits, walked, knows => by
    simp [Walk.expression] at walked
  | .composite .and (e :: rest), w, w', condition, suits, walked, knows
  | .composite .or (e :: rest), w, w', condition, suits, walked, knows => by
    rw [Walk.expression] at walked
    obtain ⟨conditions, operands, rfl⟩ := Walked.map_eq_ok walked
    rw [Setting.truth, Expression.truth,
      truths_operandsOf exposes (e :: rest) suits operands knows]
    simp
  | .composite .not [e], w, w', condition, suits, walked, knows => by
    rw [Walk.expression] at walked
    obtain ⟨inner, operand, rfl⟩ := Walked.map_eq_ok walked
    have same := truth_expression exposes e (fun l member => suits l (by
      simpa [Expression.leaves, leavesOfAll] using member)) operand knows
    rw [Setting.truth, Expression.truth, same]
    simp [truthsOfAll, Truth.all]

theorem truths_operandsOf (exposes : Exposes s db names row) : ∀ (operands : List Expression)
    {w w' : Walk} {conditions : List Expr}, (∀ l ∈ leavesOfAll operands, s.Suits l) →
      Walk.operandsOf s operands w = (.ok conditions, w') → db.Knows w'.params →
        db.truths conditions names = truthsOfAll (s.leafTruth db row) operands
  | [], w, w', conditions, suits, walked, knows => by
    cases walked
    rfl
  | e :: rest, w, w', conditions, suits, walked, knows => by
    rw [Walk.operandsOf] at walked
    obtain ⟨condition, between, others, first, later, rfl⟩ := Walked.cons_eq_ok walked
    have adds := adds_operandsOf s rest between
    rw [later] at adds
    have here := truth_expression exposes e (fun l member => suits l (by
      simp [leavesOfAll, member])) first (knows_of_adds adds knows)
    have after := truths_operandsOf exposes rest (fun l member => suits l (by
      simp [leavesOfAll, member])) later knows
    rw [Setting.truths, truthsOfAll, here, after]

end

theorem truth_criterion (exposes : Exposes s db names row) {field : String} {c : Criterion}
    {w w' : Walk} {condition : Expr} (suits : ∀ l ∈ c.leaves field, s.Suits l)
    (walked : w.criterion s field c = (.ok condition, w')) (knows : db.Knows w'.params) :
    db.truth condition names = c.truth (s.leafTruth db row) field := by
  cases c with
  | value value =>
    exact truth_comparison exposes (l := ⟨field, .eq, value⟩)
      (suits ⟨field, .eq, value⟩ (by simp [Criterion.leaves])) walked knows
  | expression e => exact truth_expression exposes e suits walked knows

theorem truths_entries (exposes : Exposes s db names row) (entries : Keyed Criterion)
    {w w' : Walk} {conditions : List Expr} (suits : ∀ l ∈ leavesOfEntries entries, s.Suits l)
    (walked : Walk.entries s entries w = (.ok conditions, w')) (knows : db.Knows w'.params) :
    db.truths conditions names =
      entries.map fun entry => entry.2.truth (s.leafTruth db row) entry.1 := by
  induction entries generalizing w conditions with
  | nil =>
    cases walked
    rfl
  | cons entry rest ih =>
    obtain ⟨field, c⟩ := entry
    rw [Walk.entries] at walked
    obtain ⟨condition, between, others, first, later, rfl⟩ := Walked.cons_eq_ok walked
    have adds := adds_entries s rest between
    rw [later] at adds
    have here := truth_criterion exposes (fun l member => suits l (by
      simp [leavesOfEntries, member])) first (knows_of_adds adds knows)
    have after := ih (fun l member => suits l (by
      simp only [leavesOfEntries, List.flatMap_cons, List.mem_append] at member ⊢
      exact .inr member)) later
    rw [Setting.truths, List.map_cons, here, after]

/-- The truth of a condition. No condition holds for every row. -/
def Sql.Setting.truthOf (db : Setting) (condition : Option Expr) (names : Bindings) : Truth :=
  (condition.map fun e => db.truth e names).getD .yes

theorem truth_criteria (exposes : Exposes s db names row) {c : Criteria} {w w' : Walk}
    {condition : Option Expr} (suits : ∀ l ∈ c.leaves, s.Suits l)
    (walked : Walk.criteria s c w = (.ok condition, w')) (knows : db.Knows w'.params) :
    db.truthOf condition names = c.truth (s.leafTruth db row) := by
  match c with
  | .expression e =>
    obtain ⟨expr, operand, rfl⟩ := Walked.map_eq_ok walked
    exact truth_expression exposes e suits operand knows
  | .fields [] =>
    cases walked
    rfl
  | .fields (entry :: rest) =>
    obtain ⟨conditions, entries, rfl⟩ := Walked.map_eq_ok walked
    have same := truths_entries exposes (entry :: rest) suits entries knows
    simp [Setting.truthOf, Expr.all, Setting.truth, Criteria.truth, same]

/-! ## Compiled criteria -/

/-- The parameters of compiled criteria are found by their names. -/
theorem knows_of_compile {r : Registry} {table aliasName : String} {c : Criteria}
    {cond : Condition} (compiled : compile r table aliasName c = .ok cond) {db : Setting}
    (bound : db.params = cond.params) : db.Knows cond.params := by
  obtain ⟨m, w, _, walked, params, _⟩ := compile_ok compiled
  obtain ⟨met, added, _, after, numbered, _⟩ := adds_criteria ⟨r, m, aliasName⟩ c .start
  rw [walked] at after
  have same : cond.params = added := by simpa [params, Walk.start] using after
  intro p member
  rw [bound]
  exact parameter?_of_nodup (same ▸ numbered.nodup_names) member

/-- A condition says of a row, with its parameters bound, what the criteria say that it has been
compiled from, if they compare columns of the table and of its translation. -/
theorem truth_compile {r : Registry} {table aliasName : String} {m : Metadata} {c : Criteria}
    {cond : Condition} (registered : r.forTable table = .ok m)
    (suits : ∀ l ∈ c.leaves, Scope.Suits ⟨r, m, aliasName⟩ l)
    (compiled : compile r table aliasName c = .ok cond) {db : Setting}
    (bound : db.params = cond.params) {names : Bindings} {row : Row}
    (exposes : Exposes ⟨r, m, aliasName⟩ db names row) :
    db.truthOf cond.expr names = c.truth (Scope.leafTruth ⟨r, m, aliasName⟩ db row) := by
  have knows := knows_of_compile compiled bound
  obtain ⟨m', w, registered', walked, params, _⟩ := compile_ok compiled
  obtain rfl : m = m' := by simpa [registered] using registered'
  exact truth_criteria exposes suits walked (params ▸ knows)

/-- Books with translations. -/
def bookTable : Metadata :=
  { Metadata.ofColumns "book" [("id", .integer), ("pages", .integer)] ["id"] with
    translation := some "book_text" }

def bookTextTable : Metadata :=
  { Metadata.ofColumns "book_text"
      [("id", .integer), ("book", .integer), ("language", .integer), ("year", .integer)] ["id"] with
    translationColumns := some ⟨"book", "language"⟩ }

def bookRegistry : Registry := ⟨[bookTable, bookTextTable], by decide⟩

/-- Books of one or two pages without a translation of a certain year. -/
def unprintedBooks : Criteria :=
  .expression (.composite .and [.comparison "pages" .isIn (.list [.int 1, .int 2]),
    .composite .not [.comparison "year" .eq (.int 1984)]])

/-- A book of two pages and its translation. -/
def bookSetting : Setting where
  rows table := if table = "book_text" then [[("book", .int 7), ("year", .int 1984)]] else []
  comparison := .ofIntegers
  params := [⟨"pages_0", .list [.int 1, .int 2], .integer⟩, ⟨"year_1", .int 1984, .integer⟩]

theorem truth_compile_book :
    ∃ cond, compile bookRegistry "book" "b" unprintedBooks = .ok cond ∧
      bookSetting.truthOf cond.expr [("b", [("id", .int 7), ("pages", .int 2)])] = .no := by
  obtain ⟨cond, compiled, bound⟩ : ∃ cond,
      compile bookRegistry "book" "b" unprintedBooks = .ok cond ∧
        bookSetting.params = cond.params := ⟨_, rfl, rfl⟩
  refine ⟨cond, compiled, ?_⟩
  rw [truth_compile (m := bookTable) rfl ?_ compiled bound
    ⟨rfl, by decide, Comparison.ofIntegers_comm⟩]
  · rfl
  · intro l member
    have leaf : l = ⟨"pages", .isIn, .list [.int 1, .int 2]⟩ ∨ l = ⟨"year", .eq, .int 1984⟩ := by
      simpa [unprintedBooks, Criteria.leaves, Expression.leaves, leavesOfAll] using member
    rcases leaf with rfl | rfl
    · exact ⟨⟨by decide, .integer, .direct, rfl, nofun⟩, fun _ => rfl⟩
    · exact ⟨⟨by decide, .integer, .translation "book_text", rfl, nofun⟩, nofun⟩
end Relmap
