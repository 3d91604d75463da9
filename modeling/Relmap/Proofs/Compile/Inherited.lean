import Relmap.Proofs.Compile.Comparison
import Relmap.Proofs.Schema.Resolution

/-!
# Inherited columns

A comparison of an inherited column reads the table of a subclass. Main statement,
`reads_declared_or_twice`: it reads a column that the subclass declares with the type that is bound,
unless the table stands under a second discriminator, which the field is led by. The column is then
looked for after the first one (`not_reads_declared_pet`).
-/

namespace Relmap

open Sql

theorem storedColumn_of_declared {discriminator field : String} {child : Metadata}
    (declared : child.hasColumn field = true) :
    storedColumn discriminator child field = field := by
  unfold storedColumn
  rw [if_pos declared]

theorem storedColumn_prefixed {discriminator column : String} {child : Metadata}
    (undeclared : ¬child.hasColumn (prefixedColumn discriminator column) = true) :
    storedColumn discriminator child (prefixedColumn discriminator column) = column := by
  unfold storedColumn
  rw [if_neg undeclared]
  simp [prefixedColumn]

/-- A column is declared by a subclass of the table under the name or under what follows a
discriminator of the subclass. -/
theorem Registry.resolve_inherited {r : Registry} {m : Metadata} {field table : String}
    {type : ColumnType} (inherited : r.resolve m field = .ok ⟨type, .inherited table⟩) :
    ∃ discriminator child, (discriminator, child) ∈ r.subclassesOf m ∧ child.table = table ∧
      child.reached? discriminator field = some type := by
  unfold resolve at inherited
  split at inherited
  · rename_i found
    cases inherited
    rw [get?_reachableColumns] at found
    rcases Option.or_eq_some_iff.mp found with direct | ⟨-, found⟩
    · simp at direct
    rcases Option.or_eq_some_iff.mp found with translated | ⟨-, found⟩
    · simp [Option.bind_eq_some_iff] at translated
    obtain ⟨⟨discriminator, child⟩, isSubclass, reached⟩ := List.exists_of_findSome?_eq_some found
    rw [Option.map_eq_some_iff] at reached
    obtain ⟨_, reached, same⟩ := reached
    cases same
    exact ⟨discriminator, child, isSubclass, rfl, reached⟩
  · cases inherited

namespace Scope

/-- The comparison reads a column that the subclass table declares, and binds its type. -/
def ReadsDeclared (s : Scope) (l : Leaf) (n : Nat) (table : String) (c : Compared) : Prop :=
  ∃ child ∈ s.registry.tables, child.table = table ∧
    ∃ column type, child.columns.get? column = some type ∧
      c = ⟨l.condition (.of table column) (.placeholder (parameterName l.field n)),
        l.parameter? l.field n type⟩

/-- The first discriminator of a subclass table, with the subclass. -/
def subclassOfTable? (s : Scope) (table : String) : Option (String × Metadata) :=
  (s.registry.subclassesOf s.metadata).find? fun child => child.2.table == table

variable {s : Scope}

theorem compareInherited_ok {table : String} {n : Nat} {l : Leaf} {type : ColumnType}
    {c : Compared} (ok : s.compareInherited table l.field n l.op l.value type = .ok c) :
    ∃ first child, s.subclassOfTable? table = some (first, child) ∧
      (first, child) ∈ s.registry.subclassesOf s.metadata ∧ child.table = table ∧
      c = ⟨l.condition (.of table (storedColumn first child l.field))
        (.placeholder (parameterName l.field n)), l.parameter? l.field n type⟩ := by
  unfold compareInherited at ok
  split at ok
  · rename_i first child found
    obtain rfl : child.table = table := by simpa using List.find?_some found
    exact ⟨first, child, found, List.mem_of_find?_eq_some found, rfl, compareColumn_ok ok⟩
  · cases ok

theorem reads_declared_or_twice {n : Nat} {l : Leaf} {type : ColumnType} {table : String}
    {c : Compared}
    (inherited : s.registry.resolve s.metadata l.field = .ok ⟨type, .inherited table⟩)
    (ok : s.compareReached n l.field l.op l.value = .ok c) :
    s.ReadsDeclared l n table c ∨
      ∃ first child other column, s.subclassOfTable? table = some (first, child) ∧
        (other, child) ∈ s.registry.subclassesOf s.metadata ∧ first ≠ other ∧
        l.field = prefixedColumn other column ∧ child.columns.get? column = some type := by
  unfold compareReached at ok
  rw [inherited] at ok
  obtain ⟨first, child, found, isFirst, isTable, rfl⟩ := compareInherited_ok ok
  obtain ⟨other, child', isOther, isTable', reached⟩ := Registry.resolve_inherited inherited
  obtain ⟨registered, -⟩ := s.registry.mem_subclassesOf.mp isFirst
  obtain ⟨registered', -⟩ := s.registry.mem_subclassesOf.mp isOther
  obtain rfl : child = child' := List.inj_on_of_nodup_map s.registry.coherent.tableNames registered
    registered' (isTable.trans isTable'.symm)
  -- The bare name comes before the one led by the discriminator, as it does in `storedColumn`.
  rcases Option.or_eq_some_iff.mp reached with declared | ⟨undeclared, renamed⟩
  · refine .inl ⟨child, registered, isTable, l.field, type, declared, ?_⟩
    rw [storedColumn_of_declared]
    rw [Metadata.hasColumn, Keyed.has, declared, Option.isSome_some]
  · obtain ⟨column, named, declared⟩ := get?_renamed renamed
    by_cases same : first = other
    · subst same
      refine .inl ⟨child, registered, isTable, column, type, declared, ?_⟩
      rw [← named, storedColumn_prefixed]
      rw [Metadata.hasColumn, Keyed.has, named, undeclared, Option.isSome_none]
      exact Bool.false_ne_true
    · exact .inr ⟨first, child, other, column, found, isOther, same, named.symm, declared⟩

end Scope

def creatureTable : Metadata :=
  { Metadata.ofColumns "animal" [("id", .integer)] ["id"] with
    subclasses := [("cat", "pet"), ("dog", "pet")] }

def petTable : Metadata :=
  Metadata.ofColumns "pet" [("id", .integer), ("age", .integer)] ["id"]

/-- Animals of which cats and dogs are kept in one table. -/
def petScope : Scope := ⟨⟨[creatureTable, petTable], by decide⟩, creatureTable, "animal"⟩

theorem reads_declared_or_twice_cat :
    ∃ c, petScope.compareReached 0 "cat_age" .eq (.int 3) = .ok c ∧
      c.condition = .compare (.of "pet" "age") .eq (.placeholder "cat_age_0") ∧
      petScope.ReadsDeclared ⟨"cat_age", .eq, .int 3⟩ 0 "pet" c := by
  have compared : petScope.compareReached 0 "cat_age" .eq (.int 3) =
    .ok (comparedBy (.compare (.of "pet" "age") .eq) "cat_age" 0 (.int 3) .integer) := rfl
  refine ⟨_, compared, rfl, ?_⟩
  rcases Scope.reads_declared_or_twice (l := ⟨"cat_age", .eq, .int 3⟩) rfl compared with reads | twice
  · exact reads
  · obtain ⟨first, child, other, column, found, isOther, differ, named, -⟩ := twice
    cases found
    obtain ⟨-, isLink⟩ := (Registry.mem_subclassesOf _).mp isOther
    rcases List.mem_pair.mp isLink with cat | dog
    · cases cat
      exact absurd rfl differ
    · cases dog
      have letters := congrArg String.toList named
      simp [prefixedColumn] at letters

/-- The column of the second discriminator is looked for after the first. -/
theorem not_reads_declared_pet :
    petScope.registry.resolve petScope.metadata "dog_age" = .ok ⟨.integer, .inherited "pet"⟩ ∧
    ∃ c, petScope.compareReached 0 "dog_age" .eq (.int 3) = .ok c ∧
      c.condition = .compare (.of "pet" "dog_age") .eq (.placeholder "dog_age_0") ∧
      ¬petScope.ReadsDeclared ⟨"dog_age", .eq, .int 3⟩ 0 "pet" c := by
  refine ⟨rfl, _, rfl, rfl, ?_⟩
  rintro ⟨child, registered, isTable, column, type, declared, reads⟩
  injection congrArg Compared.condition reads with columns
  injection columns with _ same
  subst same
  rcases List.mem_pair.mp registered with rfl | rfl
  · exact absurd isTable (by decide)
  · cases declared

end Relmap
