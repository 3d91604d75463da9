import Relmap.Proofs.Keyed
import Relmap.Proofs.Schema.Coherent
import Relmap.Schema.Definition

/-!
# Names in a table

A table names each of its columns once, and each discriminator, however it was described. Main
statement, `namesOnce_of_build`.
-/

namespace Relmap

namespace Metadata

/-- The table names each column and each discriminator once. -/
structure NamesOnce (m : Metadata) : Prop where
  columns : m.columns.names.Nodup
  discriminators : m.subclasses.names.Nodup

instance (m : Metadata) : Decidable m.NamesOnce :=
  decidable_of_iff (m.columns.names.Nodup ∧ m.subclasses.names.Nodup)
    ⟨fun once => ⟨once.1, once.2⟩, fun once => ⟨once.columns, once.discriminators⟩⟩

variable {m m' : Metadata}

theorem NamesOnce.addSubclass (once : m.NamesOnce) {discriminator table : String}
    (ok : m.addSubclass discriminator table = .ok m') : m'.NamesOnce := by
  unfold Metadata.addSubclass at ok
  split at ok
  · cases ok
  · cases ok
    exact ⟨once.columns, Keyed.nodup_insert once.discriminators discriminator table⟩

theorem NamesOnce.addRelationship (once : m.NamesOnce) {r : Relationship}
    (ok : m.addRelationship r = .ok m') : m'.NamesOnce := by
  unfold Metadata.addRelationship at ok
  split at ok
  · cases ok
  · split at ok
    · cases ok
    · cases ok
      exact ⟨once.columns, once.discriminators⟩

end Metadata

namespace Draft

variable {d : Draft}

theorem namesOnce_attempt {step : Metadata → Except Error Metadata}
    (keeps : ∀ m', step d.metadata = .ok m' → m'.NamesOnce) (once : d.metadata.NamesOnce) :
    (d.attempt step).metadata.NamesOnce := by
  unfold attempt
  split
  · exact once
  · split
    · rename_i m' ok
      exact keeps m' ok
    · exact once

theorem namesOnce_column (once : d.metadata.NamesOnce) (name : String) (type : ColumnType) :
    (d.column name type).metadata.NamesOnce :=
  ⟨Keyed.nodup_insert once.columns name type, once.discriminators⟩

theorem namesOnce_subclass (once : d.metadata.NamesOnce) (discriminator table : String) :
    (d.subclass discriminator table).metadata.NamesOnce :=
  namesOnce_attempt (fun _ ok => once.addSubclass ok) once

theorem namesOnce_relationship (once : d.metadata.NamesOnce) (r : Relationship) :
    (d.relationship r).metadata.NamesOnce :=
  namesOnce_attempt (fun _ ok => once.addRelationship ok) once

theorem namesOnce_foldl {α : Type} (step : Draft → α → Draft) (items : List α)
    (keeps : ∀ {d : Draft}, d.metadata.NamesOnce → ∀ a, (step d a).metadata.NamesOnce)
    (once : d.metadata.NamesOnce) : (items.foldl step d).metadata.NamesOnce :=
  List.foldlRecOn items step (motive := fun d => d.metadata.NamesOnce) once
    fun _ once a _ => keeps once a

/-- What is finished is the metadata of the draft. -/
theorem finish_ok {m : Metadata} (ok : d.finish = .ok m) : d.metadata = m := by
  unfold finish at ok
  grind

end Draft

namespace TableDefinition

variable {d : TableDefinition}

theorem namesOnce_draft (d : TableDefinition) : d.draft.metadata.NamesOnce := by
  have start : (Draft.ofTable d.table).metadata.NamesOnce := ⟨List.nodup_nil, List.nodup_nil⟩
  have columns := Draft.namesOnce_foldl (fun draft c => draft.column c.1 c.2) d.columns
    (fun once c => Draft.namesOnce_column once c.1 c.2) start
  have later {draft : Draft} (once : draft.metadata.NamesOnce) :
      (d.subclasses.foldl (fun draft s => draft.subclass s.1 s.2)
        (d.identifier.foldl Draft.identifier draft)).metadata.NamesOnce := by
    refine Draft.namesOnce_foldl _ d.subclasses
      (fun once s => Draft.namesOnce_subclass once s.1 s.2) ?_
    exact Draft.namesOnce_foldl _ d.identifier
      (fun once _ => ⟨once.columns, once.discriminators⟩) once
  -- The entity, the translation and the columns of a translation are none of the names.
  unfold draft
  cases d.entity with
  | none =>
    have once := later columns
    cases d.translation <;> cases d.translationOf <;> exact ⟨once.columns, once.discriminators⟩
  | some entity =>
    have named : (Draft.entity _ entity).metadata.NamesOnce :=
      ⟨columns.columns, columns.discriminators⟩
    have once := later named
    cases d.translation <;> cases d.translationOf <;> exact ⟨once.columns, once.discriminators⟩

/-- A described table names each column and each discriminator once. -/
theorem namesOnce_of_metadata {m : Metadata} (ok : d.metadata = .ok m) : m.NamesOnce := by
  unfold metadata at ok
  split at ok
  · cases ok
  · rename_i relationships _
    rw [← Draft.finish_ok ok]
    exact Draft.namesOnce_foldl Draft.relationship relationships
      Draft.namesOnce_relationship d.namesOnce_draft

end TableDefinition

namespace Registry

/-- Every table names each column and each discriminator once. -/
def NamesOnce (r : Registry) : Prop := ∀ m ∈ r.tables, m.NamesOnce

instance (r : Registry) : Decidable r.NamesOnce :=
  inferInstanceAs (Decidable (∀ m ∈ r.tables, m.NamesOnce))

/-- A registry of described tables names all columns and discriminators of a table once. -/
theorem namesOnce_of_build {definitions : List TableDefinition} {r : Registry}
    (built : build (definitions.map (·.metadata)) = .ok r) : r.NamesOnce := by
  intro m registered
  have described : .ok m ∈ definitions.map (·.metadata) := by
    rw [build_eq_ok.mp built]
    exact List.mem_map_of_mem registered
  obtain ⟨d, -, ok⟩ := List.mem_map.mp described
  exact TableDefinition.namesOnce_of_metadata ok

end Registry
end Relmap
