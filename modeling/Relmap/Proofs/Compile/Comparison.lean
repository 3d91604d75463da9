import Relmap.Compile.Comparison
import Relmap.Proofs.Criteria.Meaning
import Relmap.Proofs.Outcome
import Relmap.Proofs.Sql.Placeholders

/-!
# Compiled comparisons

What is known of a comparison that has been compiled: the parameter that it binds, the placeholders
of its condition, and the shape of the condition by the place where the column is stored.
-/

namespace Relmap

open Sql

namespace Leaf

/-- The parameter of a comparison that has `n` parameters before it, if it takes one. -/
def parameter? (l : Leaf) (name : String) (n : Nat) (type : ColumnType) : Option Parameter :=
  if l.isNullTest then none
  else some ⟨parameterName name n, l.boundValue, if l.op.isPattern then .string else type⟩

/-- The comparison asks for membership in what it binds. -/
def asksMembership (l : Leaf) : Bool :=
  l.op == .isIn || l.op == .notIn || (l.value.isList && l.takesList)

/-- The condition of a comparison on a column, with the place of what it binds. -/
def condition (l : Leaf) (column place : Expr) : Expr :=
  if l.isNullTest then .isNull l.isNegative column
  else if l.asksMembership then .inList l.isNegative column place
  else
    match l.op.relation? with
    | some relation => .compare column relation place
    | none => .like column place

end Leaf

/-- What a comparison of a column is compiled to. -/
theorem compareColumn_ok {column : Expr} {name : String} {n : Nat} {l : Leaf} {type : ColumnType}
    {c : Compared} (ok : compareColumn column name n l.op l.value type = .ok c) :
    c = ⟨l.condition column (.placeholder (parameterName name n)), l.parameter? name n type⟩ := by
  obtain ⟨field, op, value⟩ := l
  -- Every operator with every kind of value; what does not compile falls away.
  cases op <;> cases value <;>
    simp only [compareColumn, comparedByPattern, comparedBy, Except.ok.injEq, reduceCtorEq]
      at ok <;>
    subst ok <;>
    rfl

theorem placeholders_condition (l : Leaf) (column : Expr) (name : String) (n : Nat)
    (type : ColumnType) :
    (l.condition column (.placeholder (parameterName name n))).placeholders =
      column.placeholders ++ (l.parameter? name n type).toList.map (·.name) := by
  unfold Leaf.condition Leaf.parameter?
  split
  · simp [Expr.placeholders]
  · split
    · simp [Expr.placeholders]
    · split <;> simp [Expr.placeholders]

/-! ## The meaning of a condition on a column -/

section Meaning

variable {db : Setting} {names : Bindings} {p : Parameter}

theorem valuesOf_single (known : parameter? db.params p.name = some p)
    (single : p.value.isList = false) : valuesOf db.params p.name = [⟨p.value, p.type⟩] := by
  rw [valuesOf_eq_expansion known]
  unfold Parameter.expansion
  split
  · rename_i list
    simp [list, Value.isList] at single
  · rfl

theorem value_placeholder (known : parameter? db.params p.name = some p)
    (single : p.value.isList = false) : db.value names (.placeholder p.name) = p.value := by
  simp [Setting.value, valuesOf_single known single]

theorem among_placeholder (known : parameter? db.params p.name = some p)
    (single : p.value.isList = false) (subject : Value) :
    db.among subject (db.items names (.placeholder p.name)) =
      db.comparison.relation .eq subject p.value := by
  simp [Setting.items, valuesOf_single known single, Setting.among, Truth.any]

/-- A list that is bound. Without items it stands for null, with which nothing is known equal. -/
theorem among_placeholder_list {items : List Value}
    (known : parameter? db.params p.name = some p) (list : p.value = .list items)
    (subject : Value) :
    db.among subject (db.items names (.placeholder p.name)) =
      db.comparison.member subject items := by
  have values : valuesOf db.params p.name = items.map fun item => ⟨item, p.type⟩ := by
    rw [valuesOf_eq_expansion known, Parameter.expansion, list]
  cases items with
  | nil =>
    simp [Setting.items, values, Setting.among, Comparison.member, Truth.any,
      db.comparison.relation_null_right, Truth.or]
  | cons first rest =>
    simp [Setting.items, values, Setting.among, Comparison.member, Function.comp_def]

theorem truth_condition_list {l : Leaf} {items : List Value} (test : l.isNullTest = false)
    (list : l.value = .list items) (takes : l.takesList = true)
    (known : parameter? db.params p.name = some p) (value : p.value = l.boundValue)
    (column : Expr) :
    db.truth (l.condition column (.placeholder p.name)) names =
      l.truth db.comparison (db.value names column) := by
  have bound : p.value = .list items := by simp [value, Leaf.boundValue, list]
  have member : l.asksMembership = true := by
    simp [Leaf.asksMembership, list, Value.isList, takes]
  simp only [Leaf.condition, test, member, Bool.false_eq_true, if_false, if_true, Setting.truth]
  rw [among_placeholder_list known bound, Leaf.truth_of_list list]

theorem truth_condition_single {l : Leaf} (test : l.isNullTest = false)
    (single : l.value.isList = false) (known : parameter? db.params p.name = some p)
    (value : p.value = l.boundValue) (column : Expr) :
    db.truth (l.condition column (.placeholder p.name)) names =
      l.truth db.comparison (db.value names column) := by
  have boundSingle : p.value.isList = false := by rw [value, l.isList_boundValue, single]
  rw [Leaf.truth_of_single test single]
  simp only [Leaf.condition, test, Bool.false_eq_true, if_false]
  cases asked : l.op.relation? with
  | none =>
    have member : l.asksMembership = false := by
      cases op : l.op <;> simp_all [Leaf.asksMembership, Operator.relation?]
    simp only [member, Bool.false_eq_true, if_false, Setting.truth]
    rw [value_placeholder known boundSingle, value]
  | some relation =>
    rw [← Leaf.boundValue_of_relation? asked, ← value]
    split
    · rename_i member
      -- Membership in a single value is equality, and the lack of it inequality.
      simp only [Setting.truth]
      rw [among_placeholder known boundSingle]
      have membership : l.op = .isIn ∨ l.op = .notIn := by
        simpa [Leaf.asksMembership, single] using member
      rcases membership with isIn | notIn
      · obtain rfl : Relation.eq = relation := by simpa [isIn, Operator.relation?] using asked
        simp [Leaf.isNegative, isIn, Truth.negatedIf]
      · obtain rfl : Relation.ne = relation := by simpa [notIn, Operator.relation?] using asked
        rw [db.comparison.ne_eq_not]
        simp [Leaf.isNegative, notIn, Truth.negatedIf]
    · simp only [Setting.truth]
      rw [value_placeholder known boundSingle]

/-- A condition on a column says of its value what the comparison says. -/
theorem truth_condition {column : Expr} {name : String} {n : Nat} {l : Leaf} {type : ColumnType}
    (lists : l.value.isList = true → l.takesList = true)
    (known : ∀ p ∈ l.parameter? name n type, parameter? db.params p.name = some p) :
    db.truth (l.condition column (.placeholder (parameterName name n))) names =
      l.truth db.comparison (db.value names column) := by
  cases test : l.isNullTest with
  | true =>
    rw [Leaf.truth_of_nullTest test, Leaf.condition, if_pos test]
    simp only [Setting.truth]
    cases l.isNegative <;> cases (db.value names column).isNull <;> rfl
  | false =>
    have found := known ⟨parameterName name n, l.boundValue,
      if l.op.isPattern then .string else type⟩ (by simp [Leaf.parameter?, test])
    cases list : l.value with
    | list items =>
      have takes : l.takesList = true := lists (by rw [list]; rfl)
      exact truth_condition_list test list takes found rfl column
    | _ => exact truth_condition_single test (by rw [list]; rfl) found rfl column

end Meaning

namespace Scope

variable {s : Scope}

/-- The translation of the table, its column that points back, and the column that this points
at. -/
def translationLink (s : Scope) : Except Error (Metadata × String × String) := do
  let translation ← s.registry.translationOf s.metadata
  let translatableId ← translation.translatableIdColumn
  let identifier ← s.metadata.identifierColumn
  pure (translation, translatableId, identifier)

/-- The query for the rows of a translation that belong to the row of an outer query. -/
def translationQuery (s : Scope) (translation : Metadata) (translatableId identifier : String) :
    Select :=
  ((Select.empty.select [.of translationAlias translatableId]).from
    translation.table translationAlias).where
      (.equal (.of translationAlias translatableId) (.of s.aliasName identifier))

/-- A condition on a translated column asks for the identifier among the translations that meet the
condition on the column. -/
theorem compareTranslated_ok {field : String} {n : Nat} {op : Operator} {value : Value}
    {type : ColumnType} {c : Compared} (ok : s.compareTranslated field n op value type = .ok c) :
    ∃ translation translatableId identifier inner,
      s.translationLink = .ok (translation, translatableId, identifier) ∧
      compareColumn (.of translationAlias field) field n op value type = .ok inner ∧
      c = ⟨.inQuery (.of s.aliasName identifier)
        ((s.translationQuery translation translatableId identifier).where inner.condition),
        inner.parameter⟩ := by
  simp only [compareTranslated, bind_eq_ok, pure_eq_ok] at ok
  obtain ⟨translation, hasTranslation, translatableId, hasLink, identifier, hasIdentifier, inner,
    compared, rfl⟩ := ok
  refine ⟨translation, translatableId, identifier, inner, ?_, compared, rfl⟩
  simp only [translationLink, bind_eq_ok, pure_eq_ok]
  exact ⟨translation, hasTranslation, translatableId, hasLink, identifier, hasIdentifier, rfl⟩

/-- A comparison binds the same parameter wherever the column is stored. -/
theorem compareReached_ok {n : Nat} {l : Leaf} {c : Compared}
    (ok : s.compareReached n l.field l.op l.value = .ok c) :
    ∃ type origin, s.registry.resolve s.metadata l.field = .ok ⟨type, origin⟩ ∧
      c.parameter = l.parameter? l.field n type ∧
      c.condition.placeholders = c.parameter.toList.map (·.name) := by
  unfold compareReached at ok
  split at ok
  · cases ok
  · rename_i type resolved
    cases compareColumn_ok ok
    exact ⟨type, _, resolved, rfl, by simp [placeholders_condition l _ _ _ type]⟩
  · rename_i type _ resolved
    obtain ⟨translation, translatableId, identifier, inner, _, compared, rfl⟩ :=
      compareTranslated_ok ok
    cases compareColumn_ok compared
    refine ⟨type, _, resolved, rfl, ?_⟩
    have unordered :
        (s.translationQuery translation translatableId identifier).order = [] := rfl
    have bare : (s.translationQuery translation translatableId identifier).placeholders = [] := by
      simp [translationQuery, Select.where, Select.from, Select.select, Select.empty,
        Select.placeholders, columnPlaceholders, joinPlaceholders, placeholdersAll,
        orderPlaceholders]
    simp [Expr.placeholders, Select.placeholders_where unordered, bare,
      placeholders_condition l _ _ _ type]
  · rename_i type _ resolved
    unfold compareInherited at ok
    split at ok
    · cases compareColumn_ok ok
      exact ⟨type, _, resolved, rfl, by simp [placeholders_condition l _ _ _ type]⟩
    · cases ok

end Scope
end Relmap
