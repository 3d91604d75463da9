import Relmap.Proofs.Schema.Resolution
import Mathlib.Data.List.TakeWhile

/-!
# Kinds of columns

A column is a table's own, its translation's or a subclass's. The first two are told from what a
name resolves to, the last from what the subclasses declare, so that the two need not agree. Main
statement, `flags_agree_iff`: they do for a subclass column just if nothing comes before it when its
name is resolved, neither a column of the translation nor one that an earlier subclass has after its
discriminator. That there may be such columns is shown by `flags_overlap`.
-/

namespace Relmap

theorem Metadata.hasColumn_eq_false {m : Metadata} {column : String} :
    m.hasColumn column = false ↔ m.columns.get? column = none := by
  rw [hasColumn, Keyed.has, Option.isSome_eq_false_iff, Option.isNone_iff_eq_none]

theorem Metadata.reached?_eq_none {child : Metadata} {discriminator name : String} :
    child.reached? discriminator name = none ↔ child.hasColumn name = false ∧
      ∀ column, child.hasColumn column = true → prefixedColumn discriminator column ≠ name := by
  have led : Keyed.get? (child.columns.map fun c => (prefixedColumn discriminator c.1, c.2)) name =
      none ↔ ∀ column, child.hasColumn column = true → prefixedColumn discriminator column ≠ name := by
    rw [← Option.not_isSome_iff_eq_none, ← Keyed.has, Keyed.has_iff_mem_names, Keyed.names,
      List.map_map, List.mem_map]
    simp only [hasColumn, Keyed.has_iff_mem_names, Keyed.names, List.mem_map]
    grind
  rw [reached?, Option.or_eq_none_iff, led, hasColumn_eq_false]

namespace Registry

variable {r : Registry} {m : Metadata} {column : String}

theorem resolve_eq_ok {resolved : ResolvedColumn} :
    r.resolve m column = .ok resolved ↔ (r.reachableColumns m).get? column = some resolved := by
  unfold resolve
  cases (r.reachableColumns m).get? column <;> simp

/-- A table's own column comes before all others of its name. -/
theorem resolve_of_declared {type : ColumnType}
    (declared : m.columns.get? column = some type) :
    r.resolve m column = .ok ⟨type, .direct⟩ := by
  rw [resolve_eq_ok, get?_reachableColumns, declared]
  rfl

theorem columnType_of_resolve {resolved : ResolvedColumn}
    (resolves : r.resolve m column = .ok resolved) : r.columnType m column = .ok resolved.type := by
  rw [columnType, resolves]
  rfl

theorem columnType_of_declared {type : ColumnType} (declared : m.columns.get? column = some type) :
    r.columnType m column = .ok type :=
  columnType_of_resolve (resolve_of_declared declared)

/-- The translation of the table declares the column. -/
def TranslationDeclares (r : Registry) (m : Metadata) (column : String) : Prop :=
  ∃ t, r.translationOf? m = some t ∧ t.hasColumn column = true

/-- The subclasses before the first that declares the column. -/
def subclassesBefore (r : Registry) (m : Metadata) (column : String) : Keyed Metadata :=
  (r.subclassesOf m).takeWhile fun s => !s.2.hasColumn column

/-- A column comes before the one that a subclass declares under the name: one of the translation,
or one that an earlier subclass has after its discriminator. -/
def Shadowed (r : Registry) (m : Metadata) (column : String) : Prop :=
  r.TranslationDeclares m column ∨ ∃ s ∈ r.subclassesBefore m column,
    ∃ own, s.2.hasColumn own = true ∧ prefixedColumn s.1 own = column

/-- What the subclasses have under a name, in their order. -/
def inheritedColumn? (r : Registry) (m : Metadata) (column : String) : Option ResolvedColumn :=
  (r.subclassesOf m).findSome? fun s =>
    (s.2.reached? s.1 column).map (⟨·, .inherited s.2.table⟩)

theorem get?_of_declared (declared : m.hasColumn column = true) :
    ∃ type, (r.reachableColumns m).get? column = some ⟨type, .direct⟩ := by
  obtain ⟨type, found⟩ := Option.isSome_iff_exists.mp declared
  exact ⟨type, by rw [get?_reachableColumns, found]; rfl⟩

theorem get?_of_translated (undeclared : m.hasColumn column = false)
    (translated : r.TranslationDeclares m column) :
    ∃ type t, (r.reachableColumns m).get? column = some ⟨type, .translation t⟩ := by
  obtain ⟨t, linked, declared⟩ := translated
  obtain ⟨type, found⟩ := Option.isSome_iff_exists.mp declared
  refine ⟨type, t.table, ?_⟩
  rw [get?_reachableColumns, Metadata.hasColumn_eq_false.mp undeclared, linked, Option.bind_some,
    found]
  rfl

theorem get?_of_untranslated (undeclared : m.hasColumn column = false)
    (untranslated : ¬r.TranslationDeclares m column) :
    (r.reachableColumns m).get? column = r.inheritedColumn? m column := by
  have none : ((r.translationOf? m).bind fun t =>
      (t.columns.get? column).map (ResolvedColumn.mk · (.translation t.table))) = none := by
    rw [Option.bind_eq_none_iff]
    intro t linked
    rw [Option.map_eq_none_iff, ← Option.not_isSome_iff_eq_none]
    exact fun declared => untranslated ⟨t, linked, declared⟩
  rw [get?_reachableColumns, Metadata.hasColumn_eq_false.mp undeclared, none]
  rfl

/-- A subclass has something under the name, and no subclass before it does. -/
theorem inheritedColumn?_eq_some {resolved : ResolvedColumn} :
    r.inheritedColumn? m column = some resolved ↔
      ∃ before s later type, r.subclassesOf m = before ++ s :: later ∧
        (∀ t ∈ before, t.2.reached? t.1 column = none) ∧ s.2.reached? s.1 column = some type ∧
        resolved = ⟨type, .inherited s.2.table⟩ := by
  rw [inheritedColumn?, List.findSome?_eq_some_iff]
  simp only [Option.map_eq_some_iff, Option.map_eq_none_iff]
  constructor
  · rintro ⟨before, s, later, split, ⟨type, reached, rfl⟩, none⟩
    exact ⟨before, s, later, type, split, none, reached, rfl⟩
  · rintro ⟨before, s, later, type, split, none, reached, rfl⟩
    exact ⟨before, s, later, split, ⟨type, reached, rfl⟩, none⟩

theorem origin_inheritedColumn? {resolved : ResolvedColumn}
    (found : r.inheritedColumn? m column = some resolved) :
    ∃ table, resolved.origin = .inherited table := by
  obtain ⟨_, s, _, type, -, -, -, rfl⟩ := inheritedColumn?_eq_some.mp found
  exact ⟨s.2.table, rfl⟩

theorem isTranslated_iff :
    r.isTranslated m column = true ↔ m.hasColumn column = false ∧ r.TranslationDeclares m column := by
  unfold isTranslated
  cases declared : m.hasColumn column with
  | true =>
    obtain ⟨type, found⟩ := get?_of_declared (r := r) declared
    simp [found]
  | false =>
    by_cases translated : r.TranslationDeclares m column
    · obtain ⟨type, t, found⟩ := get?_of_translated declared translated
      simp [found, translated]
    · rw [get?_of_untranslated declared translated]
      cases found : r.inheritedColumn? m column with
      | none => simp [translated]
      | some resolved =>
        obtain ⟨type, origin⟩ := resolved
        obtain ⟨table, rfl⟩ := origin_inheritedColumn? found
        simp [translated]

/-! ## Subclass columns -/

/-- The first subclass that declares a column splits the subclasses. -/
theorem declaringSubclass?_eq_some {child : Metadata}
    (declares : r.declaringSubclass? m column = some child) :
    ∃ discriminator later,
      r.subclassesOf m = r.subclassesBefore m column ++ (discriminator, child) :: later ∧
        child.hasColumn column = true := by
  rw [declaringSubclass?] at declares
  have declared := List.find?_some declares
  rw [List.find?_map, List.find?_eq_head?_dropWhile_not, Option.map_eq_some_iff]
    at declares
  obtain ⟨⟨discriminator, _⟩, first, rfl⟩ := declares
  obtain ⟨later, rest⟩ := List.head?_eq_some_iff.mp first
  refine ⟨discriminator, later, ?_, declared⟩
  rw [subclassesBefore, ← rest]
  exact List.takeWhile_append_dropWhile.symm

theorem not_declares_before {s : String × Metadata} (before : s ∈ r.subclassesBefore m column) :
    s.2.hasColumn column = false := by
  simpa using List.mem_takeWhile_imp before

/-- What an earlier subclass has under the name is found first; else the name leads to the first
subclass that declares it. -/
theorem inheritedColumn?_eq {child : Metadata}
    (declares : r.declaringSubclass? m column = some child) :
    ∃ type, child.columns.get? column = some type ∧ r.inheritedColumn? m column =
      ((r.subclassesBefore m column).findSome? fun s =>
        (s.2.reached? s.1 column).map (⟨·, .inherited s.2.table⟩)).or
          (some ⟨type, .inherited child.table⟩) := by
  obtain ⟨discriminator, later, split, declared⟩ := declaringSubclass?_eq_some declares
  obtain ⟨type, found⟩ := Option.isSome_iff_exists.mp declared
  refine ⟨type, found, ?_⟩
  rw [inheritedColumn?, split, List.findSome?_append, List.findSome?_cons, Metadata.reached?, found]
  rfl

/-- Subclasses of one table that differ in a column are different tables. -/
theorem table_ne_of_before {child : Metadata} {s : String × Metadata}
    (declares : r.declaringSubclass? m column = some child)
    (before : s ∈ r.subclassesBefore m column) : s.2.table ≠ child.table := by
  obtain ⟨discriminator, later, split, declared⟩ := declaringSubclass?_eq_some declares
  have isSubclass : s ∈ r.subclassesOf m := by
    rw [split]
    exact List.mem_append_left _ before
  have isSubclass' : (discriminator, child) ∈ r.subclassesOf m := by
    rw [split]
    exact List.mem_append_right _ List.mem_cons_self
  intro same
  have one : s.2 = child := List.inj_on_of_nodup_map r.coherent.tableNames
    (r.mem_subclassesOf.mp isSubclass).1 (r.mem_subclassesOf.mp isSubclass').1 same
  rw [← one, not_declares_before before] at declared
  exact Bool.false_ne_true declared

/-- A subclass column resolves to the first subclass that declares it iff no earlier one has a
column of the name. -/
theorem inheritedColumn?_iff {child : Metadata}
    (declares : r.declaringSubclass? m column = some child) :
    (∃ type, r.inheritedColumn? m column = some ⟨type, .inherited child.table⟩) ↔
      ¬∃ s ∈ r.subclassesBefore m column,
        ∃ own, s.2.hasColumn own = true ∧ prefixedColumn s.1 own = column := by
  obtain ⟨type, found, inherited⟩ := inheritedColumn?_eq declares
  rw [inherited]
  cases before : (r.subclassesBefore m column).findSome? fun s =>
      (s.2.reached? s.1 column).map (ResolvedColumn.mk · (.inherited s.2.table)) with
  | none =>
    simp only [List.findSome?_eq_none_iff, Option.map_eq_none_iff, Metadata.reached?_eq_none]
      at before
    refine iff_of_true ⟨type, rfl⟩ ?_
    rintro ⟨s, isBefore, own, declared, named⟩
    exact (before s isBefore).2 own declared named
  | some resolved =>
    obtain ⟨s, isBefore, reached⟩ := List.exists_of_findSome?_eq_some before
    obtain ⟨type', reached, rfl⟩ := Option.map_eq_some_iff.mp reached
    refine iff_of_false ?_ (not_not.mpr ⟨s, isBefore, ?_⟩)
    · rintro ⟨type'', same⟩
      rw [Option.some_or, Option.some.injEq, ResolvedColumn.mk.injEq, Origin.inherited.injEq]
        at same
      exact table_ne_of_before declares isBefore same.2
    · by_contra apart
      have unreached := Metadata.reached?_eq_none.mpr ⟨not_declares_before isBefore,
        fun own declared named => apart ⟨own, declared, named⟩⟩
      rw [unreached] at reached
      cases reached

/-- A table's own column is neither translated nor inherited. An inherited column is not translated,
and resolves to the first subclass that declares it, iff no column comes before it. -/
theorem flags_agree_iff (r : Registry) (m : Metadata) (column : String) :
    ¬(m.hasColumn column = true ∧ r.isTranslated m column = true) ∧
    ¬(m.hasColumn column = true ∧ r.isInherited m column = true) ∧
    (r.isInherited m column = true →
      ((r.isTranslated m column = false ∧ ∃ child type,
          r.declaringSubclass? m column = some child ∧
            r.resolve m column = .ok ⟨type, .inherited child.table⟩) ↔
        ¬r.Shadowed m column)) := by
  refine ⟨?_, ?_, fun inherited => ?_⟩
  · rintro ⟨declared, translated⟩
    rw [(isTranslated_iff.mp translated).1] at declared
    cases declared
  · rintro ⟨declared, inherited⟩
    rw [isInherited, declared] at inherited
    cases inherited
  · rw [isInherited, Bool.and_eq_true, Bool.not_eq_true', Option.isSome_iff_exists] at inherited
    obtain ⟨undeclared, child, declares⟩ := inherited
    by_cases translated : r.TranslationDeclares m column
    · have flagged := isTranslated_iff.mpr ⟨undeclared, translated⟩
      refine iff_of_false ?_ (not_not.mpr (.inl translated))
      rintro ⟨unflagged, -⟩
      rw [flagged] at unflagged
      cases unflagged
    · have unflagged : r.isTranslated m column = false := by
        rw [← Bool.not_eq_true, isTranslated_iff]
        exact fun flagged => translated flagged.2
      simp only [unflagged, true_and, declares, Option.some.injEq, resolve_eq_ok,
        get?_of_untranslated undeclared translated, exists_and_left, exists_eq_left', Shadowed,
        translated, false_or]
      exact inheritedColumn?_iff declares

def faunaTable : Metadata :=
  { Metadata.ofColumns "animal" [("id", .integer)] ["id"] with
    subclasses := [("cat", "cat"), ("dog", "dog")]
    translation := some "animal_text" }

/-- A subclass with a column that is named like one of the translation, and a subclass with one that
is named like a column of the other after its discriminator. -/
def fauna : Registry :=
  ⟨[faunaTable,
    Metadata.ofColumns "cat" [("id", .integer), ("age", .integer), ("name", .string)] ["id"],
    Metadata.ofColumns "dog" [("id", .integer), ("cat_age", .string), ("breed", .string)] ["id"],
    { Metadata.ofColumns "animal_text"
        [("animal", .integer), ("language", .integer), ("name", .string)] ["animal", "language"] with
      translationColumns := some ⟨"animal", "language"⟩ }], by decide⟩

theorem flags_agree_iff_breed :
    fauna.isInherited faunaTable "breed" = true ∧ ¬fauna.Shadowed faunaTable "breed" ∧
      fauna.isTranslated faunaTable "breed" = false ∧ ∃ child type,
        fauna.declaringSubclass? faunaTable "breed" = some child ∧
          fauna.resolve faunaTable "breed" = .ok ⟨type, .inherited child.table⟩ := by
  have inherited : fauna.isInherited faunaTable "breed" = true := by decide
  have agrees : fauna.isTranslated faunaTable "breed" = false ∧ ∃ child type,
      fauna.declaringSubclass? faunaTable "breed" = some child ∧
        fauna.resolve faunaTable "breed" = .ok ⟨type, .inherited child.table⟩ :=
    ⟨by decide, _, _, rfl, rfl⟩
  obtain ⟨-, -, iff⟩ := flags_agree_iff fauna faunaTable "breed"
  exact ⟨inherited, (iff inherited).mp agrees, agrees⟩

/-- One column is both translated and inherited, and another one resolves to a subclass that is not
the one that declares it. -/
theorem flags_overlap :
    (fauna.isTranslated faunaTable "name" = true ∧ fauna.isInherited faunaTable "name" = true) ∧
      fauna.isInherited faunaTable "cat_age" = true ∧
        fauna.resolve faunaTable "cat_age" = .ok ⟨.integer, .inherited "cat"⟩ ∧
          (fauna.declaringSubclass? faunaTable "cat_age").map (·.table) = some "dog" := by
  decide

end Registry
end Relmap
