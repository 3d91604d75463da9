import Relmap.Proofs.Schema.Flags

/-!
# Priority of columns

Which column a name stands for, said without the order in which the columns of a table are collected:
a column of the table, else of its translation, else of the first subclass that has one under the
name. Main statement, `resolve_iff_reaches`: a name resolves to just this column, of which there is
one at most, and is refused if there is none.
-/

namespace Relmap

/-- A subclass has a column of the type under a name: the column of that name or, if it declares
none, the column that has the name after the discriminator. -/
inductive Metadata.HasUnder (child : Metadata) (discriminator name : String) : ColumnType → Prop
  | bare {type : ColumnType} :
      child.columns.get? name = some type → HasUnder child discriminator name type
  | led {column : String} {type : ColumnType} :
      child.hasColumn name = false → prefixedColumn discriminator column = name →
      child.columns.get? column = some type → HasUnder child discriminator name type

theorem get?_map_of_injective {rename : String → String} (injective : Function.Injective rename)
    (columns : Keyed ColumnType) (column : String) :
    Keyed.get? (columns.map fun c => (rename c.1, c.2)) (rename column) = columns.get? column := by
  induction columns with
  | nil => rfl
  | cons c rest ih =>
    obtain ⟨first, type⟩ := c
    simp only [List.map_cons, Keyed.get?, injective.eq_iff, ih]

theorem Metadata.reached?_eq_some {child : Metadata} {discriminator name : String}
    {type : ColumnType} :
    child.reached? discriminator name = some type ↔ child.HasUnder discriminator name type := by
  rw [reached?, Option.or_eq_some_iff]
  constructor
  · rintro (bare | ⟨none, renamed⟩)
    · exact .bare bare
    · obtain ⟨column, named, declared⟩ := get?_renamed renamed
      exact .led (hasColumn_eq_false.mpr none) named declared
  · rintro (bare | ⟨undeclared, rfl, declared⟩)
    · exact .inl bare
    · exact .inr ⟨hasColumn_eq_false.mp undeclared,
        (get?_map_of_injective (prefixedColumn_injective _) _ _).trans declared⟩

theorem Metadata.reached?_eq_none_iff {child : Metadata} {discriminator name : String} :
    child.reached? discriminator name = none ↔
      ∀ type, ¬child.HasUnder discriminator name type := by
  rw [Option.eq_none_iff_forall_ne_some]
  exact forall_congr' fun type => not_congr reached?_eq_some

namespace Registry

variable {r : Registry} {m : Metadata} {name : String}

/-- The column that a table reaches under a name, with its type and the place where it is stored. -/
inductive Reaches (r : Registry) (m : Metadata) (name : String) : ResolvedColumn → Prop
  | own {type : ColumnType} : m.columns.get? name = some type → Reaches r m name ⟨type, .direct⟩
  | translated {t : Metadata} {type : ColumnType} :
      m.hasColumn name = false → r.translationOf? m = some t → t.columns.get? name = some type →
      Reaches r m name ⟨type, .translation t.table⟩
  /-- No subclass before the one that stores the column has any under the name. -/
  | inherited {before later : Keyed Metadata} {discriminator : String} {child : Metadata}
      {type : ColumnType} :
      m.hasColumn name = false → ¬r.TranslationDeclares m name →
      r.subclassesOf m = before ++ (discriminator, child) :: later →
      (∀ s ∈ before, ∀ type, ¬s.2.HasUnder s.1 name type) →
      child.HasUnder discriminator name type →
      Reaches r m name ⟨type, .inherited child.table⟩

/-- What has been collected under a name is reached under it. -/
theorem reaches_of_get? {column : ResolvedColumn}
    (found : (r.reachableColumns m).get? name = some column) : r.Reaches m name column := by
  rw [get?_reachableColumns, Option.or_eq_some_iff, Option.or_eq_some_iff] at found
  rcases found with direct | ⟨absent, elsewhere⟩
  · obtain ⟨type, own, rfl⟩ := Option.map_eq_some_iff.mp direct
    exact .own own
  have undeclared := Metadata.hasColumn_eq_false.mpr (Option.map_eq_none_iff.mp absent)
  rcases elsewhere with translated | ⟨absent, inherited⟩
  · obtain ⟨t, linked, found⟩ := Option.bind_eq_some_iff.mp translated
    obtain ⟨type, declared, rfl⟩ := Option.map_eq_some_iff.mp found
    exact .translated undeclared linked declared
  · have untranslated : ¬r.TranslationDeclares m name := by
      rintro ⟨t, linked, declared⟩
      have none := Option.map_eq_none_iff.mp (Option.bind_eq_none_iff.mp absent t linked)
      rw [Metadata.hasColumn_eq_false.mpr none] at declared
      cases declared
    obtain ⟨before, s, later, type, split, first, has, rfl⟩ :=
      inheritedColumn?_eq_some.mp inherited
    exact .inherited undeclared untranslated split
      (fun s isBefore => Metadata.reached?_eq_none_iff.mp (first s isBefore))
      (Metadata.reached?_eq_some.mp has)

/-- What is reached under a name has been collected under it, before all else of the name. -/
theorem get?_of_reaches {column : ResolvedColumn} (reaches : r.Reaches m name column) :
    (r.reachableColumns m).get? name = some column := by
  cases reaches with
  | own own => exact resolve_eq_ok.mp (resolve_of_declared own)
  | translated undeclared linked found =>
    rw [get?_reachableColumns, Metadata.hasColumn_eq_false.mp undeclared, linked, Option.bind_some, found]
    rfl
  | inherited undeclared untranslated split first has =>
    rw [get?_of_untranslated undeclared untranslated, inheritedColumn?_eq_some]
    exact ⟨_, _, _, _, split,
      fun s isBefore => Metadata.reached?_eq_none_iff.mpr (first s isBefore),
      Metadata.reached?_eq_some.mpr has, rfl⟩

/-- A name resolves to what the table reaches under it, which is one column of one type in one place
at most. It is refused, with the columns that could be named, just if nothing is reached under it. -/
theorem resolve_iff_reaches (r : Registry) (m : Metadata) (name : String) :
    (∀ column, r.resolve m name = .ok column ↔ r.Reaches m name column) ∧
    (∀ column other, r.Reaches m name column → r.Reaches m name other → column = other) ∧
    ((∀ column, ¬r.Reaches m name column) ↔
      r.resolve m name = .error (.lookup (.unknownColumn name m.table (r.offeredColumns m)))) := by
  have resolves (column : ResolvedColumn) :
      r.resolve m name = .ok column ↔ r.Reaches m name column :=
    resolve_eq_ok.trans ⟨reaches_of_get?, get?_of_reaches⟩
  refine ⟨resolves, fun column other reaches reaches' => ?_, ?_⟩
  · exact Option.some.inj ((get?_of_reaches reaches).symm.trans (get?_of_reaches reaches'))
  · simp only [← resolves]
    unfold resolve
    cases (r.reachableColumns m).get? name <;> simp

/-- A column of a subclass after its discriminator, which a later subclass declares as it is. -/
theorem resolve_iff_reaches_fauna :
    fauna.Reaches faunaTable "cat_age" ⟨.integer, .inherited "cat"⟩ ∧
      (∀ other, fauna.Reaches faunaTable "cat_age" other → other = ⟨.integer, .inherited "cat"⟩) ∧
      ∀ column, ¬fauna.Reaches faunaTable "weight" column := by
  obtain ⟨resolves, one, -⟩ := resolve_iff_reaches fauna faunaTable "cat_age"
  obtain ⟨-, -, refused⟩ := resolve_iff_reaches fauna faunaTable "weight"
  have reaches := (resolves ⟨.integer, .inherited "cat"⟩).mp (by decide)
  exact ⟨reaches, fun other reaches' => one other _ reaches' reaches, refused.mpr (by decide)⟩

end Registry
end Relmap
