import Relmap.Proofs.Outcome
import Relmap.Proofs.Schema.Lookups
import Relmap.Schema.Definition

/-!
# Described tables

A table that is described as data is built one part after the other. Its relationships are read first,
a part that fails is left out of the draft, and what the table builds on is checked at the end. Main
statement, `metadata_of_definition`: a description is accepted just if it is sound, and the table then
has every part of it, in its order.
-/

namespace Relmap

/-! ## Relationships -/

namespace RelationshipDefinition

/-- A link to one row has a foreign key. A link to many rows has none, and is joined. -/
def Sound (d : RelationshipDefinition) : Prop :=
  match d.kind with
  | .manyToOne => ∃ foreignKey, d.foreignKey = some foreignKey
  | .oneToMany => d.foreignKey = none ∧ d.join = .joined

/-- The foreign key of a link to one row. -/
def linkColumn? (d : RelationshipDefinition) : Option String :=
  match d.kind with
  | .manyToOne => d.foreignKey
  | .oneToMany => none

/-- The relationship has what the description says, and an empty foreign key if it says none. -/
structure Describes (d : RelationshipDefinition) (r : Relationship) : Prop where
  target : r.target = d.target
  property : r.property = d.property
  foreignKey : r.foreignKey = d.foreignKey.getD ""
  relatedId : r.relatedId = d.relatedId
  join : r.join = d.join
  kind : r.kind = d.kind

variable {d : RelationshipDefinition} {r r' : Relationship}

theorem Describes.unique (here : d.Describes r) (there : d.Describes r') : r = r' := by
  obtain ⟨target, property, foreignKey, relatedId, join, kind, _⟩ := r
  obtain ⟨target', property', foreignKey', relatedId', join', kind', _⟩ := r'
  obtain ⟨rfl, rfl, rfl, rfl, rfl, rfl⟩ := here
  obtain ⟨rfl, rfl, rfl, rfl, rfl, rfl⟩ := there
  rfl

theorem exists_relationship (sound : d.Sound) :
    ∃ r, d.relationship = .ok r ∧ d.Describes r := by
  obtain ⟨target, property, foreignKey, relatedId, join, kind⟩ := d
  cases kind with
  | manyToOne =>
    obtain ⟨foreignKey, rfl⟩ := sound
    exact ⟨_, rfl, ⟨rfl, rfl, rfl, rfl, rfl, rfl⟩⟩
  | oneToMany =>
    obtain ⟨rfl, rfl⟩ := sound
    exact ⟨_, rfl, ⟨rfl, rfl, rfl, rfl, rfl, rfl⟩⟩

theorem sound_of_relationship (ok : d.relationship = .ok r) : d.Sound := by
  obtain ⟨target, property, foreignKey, relatedId, join, kind⟩ := d
  cases kind with
  | manyToOne =>
    cases foreignKey with
    | none => cases ok
    | some foreignKey => exact ⟨foreignKey, rfl⟩
  | oneToMany =>
    cases foreignKey with
    | some foreignKey => cases ok
    | none =>
      cases join with
      | joined => exact ⟨rfl, rfl⟩
      | subSelect => cases ok

theorem relationship_eq_ok : d.relationship = .ok r ↔ d.Sound ∧ d.Describes r := by
  constructor
  · intro ok
    obtain ⟨r', ok', describes⟩ := exists_relationship (sound_of_relationship ok)
    obtain rfl := Except.ok.inj (ok.symm.trans ok')
    exact ⟨sound_of_relationship ok, describes⟩
  · rintro ⟨sound, describes⟩
    obtain ⟨r', ok, describes'⟩ := exists_relationship sound
    rw [ok, describes.unique describes']

/-- A table looks a link up by the foreign key that is described, if that is outside the identifier. -/
theorem hasForeignColumn_of_describes (sound : d.Sound) (describes : d.Describes r) (m : Metadata) :
    (if m.hasForeignColumn r then [r.foreignKey] else []) =
      d.linkColumn?.toList.filter fun column => !m.identifier.contains column := by
  unfold Sound at sound
  rw [Metadata.hasForeignColumn, Relationship.isToMany, describes.kind, describes.foreignKey,
    linkColumn?]
  cases kind : d.kind with
  | manyToOne =>
    rw [kind] at sound
    obtain ⟨foreignKey, present⟩ := sound
    rw [present]
    simp [List.filter_cons]
  | oneToMany => rfl

section

variable {ds : List RelationshipDefinition} {rs : List Relationship}
  (each : List.Forall₂ Describes ds rs)

include each

theorem properties_of_described : rs.map (·.property) = ds.map (·.property) := by
  induction each with
  | nil => rfl
  | cons first _ ih => rw [List.map_cons, List.map_cons, first.property, ih]

theorem foreignColumns_of_described (sound : ∀ d ∈ ds, d.Sound) (m : Metadata) :
    (rs.filter m.hasForeignColumn).map (·.foreignKey) =
      (ds.filterMap (·.linkColumn?)).filter fun column => !m.identifier.contains column := by
  induction each with
  | nil => rfl
  | @cons d r ds rs first _ ih =>
    obtain ⟨here, later⟩ := List.forall_mem_cons.mp sound
    have links : ((r :: rs).filter m.hasForeignColumn).map (·.foreignKey) =
        (if m.hasForeignColumn r then [r.foreignKey] else []) ++
          (rs.filter m.hasForeignColumn).map (·.foreignKey) := by
      rw [List.filter_cons]
      split <;> rfl
    have described : (d :: ds).filterMap (·.linkColumn?) =
        d.linkColumn?.toList ++ ds.filterMap (·.linkColumn?) := by
      rw [List.filterMap_cons]
      cases d.linkColumn? <;> rfl
    rw [links, described, List.filter_append, hasForeignColumn_of_describes here first, ih later]

end

end RelationshipDefinition

/-! ## Parts of a draft -/

namespace Draft

variable {α : Type} {step : α → Metadata → Except Error Metadata}

theorem foldl_attempt_failed (m : Metadata) (e : Error) (xs : List α) :
    xs.foldl (fun d x => d.attempt (step x)) (Draft.mk m (some e)) = ⟨m, some e⟩ := by
  induction xs with
  | nil => rfl
  | cons x rest ih => exact ih

/-- The first part that fails decides, although the construction goes on without it. -/
theorem finish_foldl_attempt (m : Metadata) (xs : List α) :
    (xs.foldl (fun d x => d.attempt (step x)) (Draft.mk m none)).finish =
      xs.foldlM (fun m x => step x m) m >>= fun m => finish ⟨m, none⟩ := by
  induction xs generalizing m with
  | nil => rfl
  | cons x rest ih =>
    rw [List.foldl_cons, List.foldlM_cons]
    cases stepped : step x m with
    | error e =>
      rw [show (Draft.mk m none).attempt (step x) = ⟨m, some e⟩ by simp only [attempt, stepped],
        foldl_attempt_failed]
      rfl
    | ok m' =>
      rw [show (Draft.mk m none).attempt (step x) = ⟨m', none⟩ by simp only [attempt, stepped]]
      exact ih m'

theorem foldl_column (columns : Keyed ColumnType) (d : Draft) :
    columns.foldl (fun d c => d.column c.1 c.2) d =
      { d with metadata := { d.metadata with columns := d.metadata.columns.writeAll columns } } := by
  induction columns generalizing d with
  | nil => rfl
  | cons c rest ih => exact ih _

theorem foldl_identifier (columns : List String) (d : Draft) :
    columns.foldl identifier d =
      { d with metadata := { d.metadata with identifier := d.metadata.identifier ++ columns } } := by
  induction columns generalizing d with
  | nil => simp
  | cons c rest ih =>
    rw [List.foldl_cons, ih]
    simp [identifier]

/-- Subclasses under new discriminators do not fail. -/
theorem foldl_subclass {subclasses : Keyed String} {m : Metadata}
    (new : (m.subclasses.names ++ subclasses.names).Nodup) :
    subclasses.foldl (fun d s => d.subclass s.1 s.2) (Draft.mk m none) =
      ⟨{ m with subclasses := m.subclasses ++ subclasses }, none⟩ := by
  induction subclasses generalizing m with
  | nil => simp
  | cons s rest ih =>
    obtain ⟨discriminator, table⟩ := s
    have absent : discriminator ∉ m.subclasses.names := fun present =>
      List.disjoint_of_nodup_append new present List.mem_cons_self
    have added : (Draft.mk m none).subclass discriminator table =
        ⟨{ m with subclasses := m.subclasses ++ [(discriminator, table)] }, none⟩ := by
      rw [subclass, attempt, Metadata.addSubclass,
        if_neg (mt (Keyed.has_iff_mem_names _ _).mp absent), Keyed.insert_of_absent absent]
    rw [List.foldl_cons, added, ih, List.append_assoc, List.singleton_append]
    rwa [Keyed.names, List.map_append, List.append_assoc]

/-- A finished table has a name, and the columns that it builds on. -/
theorem finish_eq_ok {m m' : Metadata} :
    (Draft.mk m none).finish = .ok m' ↔ m' = m ∧ m.table ≠ "" ∧
      (∀ column ∈ m.identifier, column ∈ m.columns.names) ∧
      ∀ column ∈ translationNames m, column ∈ m.columns.names := by
  have declares (columns : List String) :
      (columns.find? fun column => !m.hasColumn column) = none ↔
        ∀ column ∈ columns, column ∈ m.columns.names := by
    simp [List.find?_eq_none, Metadata.hasColumn, Keyed.has_iff_mem_names]
  rw [← declares, ← declares]
  by_cases unnamed : m.table = ""
  · simp [finish, unnamed]
  cases identifier : m.identifier.find? fun column => !m.hasColumn column with
  | some column => simp [finish, unnamed, identifier]
  | none =>
    cases translation : (translationNames m).find? fun column => !m.hasColumn column with
    | some column => simp [finish, unnamed, identifier, translation]
    | none =>
      have finished : (Draft.mk m none).finish = .ok m := by
        simp [finish, unnamed, identifier, translation]
      rw [finished, Except.ok.injEq, eq_comm, and_iff_left ⟨unnamed, rfl, rfl⟩]

end Draft

/-! ## Relationships of a table -/

namespace Metadata

variable {m m' : Metadata} {r : Relationship}

theorem nodup_properties_written (properties : m.properties.Nodup) :
    (m.written (.relationship r)).properties.Nodup ↔ r.property ∉ m.properties := by
  rw [show (m.written (.relationship r)).properties = m.properties ++ [r.property] from
    List.map_append, List.nodup_append_comm, List.singleton_append, List.nodup_cons,
    and_iff_left properties]

theorem nodup_foreignColumns_written (foreignColumns : m.foreignColumns.Nodup) :
    (m.written (.relationship r)).foreignColumns.Nodup ↔
      (m.hasForeignColumn r = true → r.foreignKey ∉ m.foreignColumns) := by
  rw [foreignColumns_relationship]
  cases m.hasForeignColumn r with
  | false => simpa using foreignColumns
  | true =>
    rw [if_pos rfl, List.nodup_append_comm, List.singleton_append, List.nodup_cons,
      and_iff_left foreignColumns, forall_prop_of_true rfl]

theorem addRelationship_eq_ok (properties : m.properties.Nodup)
    (foreignColumns : m.foreignColumns.Nodup) :
    m.addRelationship r = .ok m' ↔
      m' = m.written (.relationship r) ∧ m'.properties.Nodup ∧ m'.foreignColumns.Nodup := by
  have accepted : m.addRelationship r = .ok m' ↔ m' = m.written (.relationship r) ∧
      r.property ∉ m.properties ∧
      (m.hasForeignColumn r = true → r.foreignKey ∉ m.foreignColumns) := by
    unfold addRelationship
    by_cases taken : r.property ∈ m.properties
    · rw [if_pos (by simpa using taken)]
      exact iff_of_false (by simp) fun ⟨_, new, _⟩ => new taken
    rw [if_neg (by simpa using taken)]
    by_cases clash : m.hasForeignColumn r = true ∧ r.foreignKey ∈ m.foreignColumns
    · rw [if_pos (by simpa using clash)]
      exact iff_of_false (by simp) fun ⟨_, _, apart⟩ => apart clash.1 clash.2
    · rw [if_neg (by simpa using clash), Except.ok.injEq, eq_comm,
        and_iff_left ⟨taken, fun led member => clash ⟨led, member⟩⟩]
      rfl
  rw [accepted]
  refine and_congr_right ?_
  rintro rfl
  rw [nodup_properties_written properties, nodup_foreignColumns_written foreignColumns]

/-- Relationships are added one after the other just if no property, and no column that leads to
one, comes twice in the end. -/
theorem addRelationships_eq_ok {rs : List Relationship} (properties : m.properties.Nodup)
    (foreignColumns : m.foreignColumns.Nodup) :
    rs.foldlM (fun m r => m.addRelationship r) m = .ok m' ↔
      m' = { m with relationships := m.relationships ++ rs } ∧ m'.properties.Nodup ∧
        m'.foreignColumns.Nodup := by
  induction rs generalizing m with
  | nil =>
    rw [List.foldlM_nil, pure_eq_ok, List.append_nil]
    constructor
    · rintro rfl
      exact ⟨rfl, properties, foreignColumns⟩
    · rintro ⟨rfl, -, -⟩
      rfl
  | cons r rest ih =>
    rw [List.foldlM_cons, bind_eq_ok, ← List.singleton_append, ← List.append_assoc]
    constructor
    · rintro ⟨between, first, later⟩
      obtain ⟨rfl, properties, foreignColumns⟩ :=
        (addRelationship_eq_ok properties foreignColumns).mp first
      exact (ih properties foreignColumns).mp later
    · rintro ⟨rfl, once, once'⟩
      -- What is distinct in the end has been distinct after the first relationship.
      have properties' : (m.written (.relationship r)).properties.Nodup := by
        rw [Metadata.properties, List.map_append] at once
        exact once.of_append_left
      have foreignColumns' : (m.written (.relationship r)).foreignColumns.Nodup := by
        rw [Metadata.foreignColumns, List.filter_append, List.map_append] at once'
        exact once'.of_append_left
      exact ⟨_, (addRelationship_eq_ok properties foreignColumns).mpr
        ⟨rfl, properties', foreignColumns'⟩, (ih properties' foreignColumns').mpr
          ⟨rfl, once, once'⟩⟩

end Metadata

namespace TableDefinition

/-- What a description has to be for a table to be built from it. -/
structure Sound (d : TableDefinition) : Prop where
  named : d.table ≠ ""
  identifier : ∀ column ∈ d.identifier, column ∈ d.columns.names
  translation : ∀ columns, d.translationOf = some columns →
    columns.translatableId ∈ d.columns.names ∧ columns.languageId ∈ d.columns.names
  relationships : ∀ r ∈ d.relationships, r.Sound
  properties : (d.relationships.map (·.property)).Nodup
  linkColumns : ((d.relationships.filterMap (·.linkColumn?)).filter
    fun column => !d.identifier.contains column).Nodup

/-- The table has what the description says, in its order. -/
structure Describes (d : TableDefinition) (m : Metadata) : Prop where
  table : m.table = d.table
  entity : m.entity = d.entity
  columns : m.columns = d.columns
  identifier : m.identifier = d.identifier
  subclasses : m.subclasses = d.subclasses
  translation : m.translation = d.translation
  translationColumns : m.translationColumns = d.translationOf
  relationships : List.Forall₂ RelationshipDefinition.Describes d.relationships m.relationships

/-- The table without its relationships. -/
def bare (d : TableDefinition) : Metadata :=
  ⟨d.table, d.entity, d.columns, d.identifier, d.subclasses, d.translation, d.translationOf, []⟩

variable {d : TableDefinition} {m : Metadata}

/-- A draft from maps that name each of their entries once has all of them, and no failure. -/
theorem draft_eq (columns : d.columns.names.Nodup) (discriminators : d.subclasses.names.Nodup) :
    d.draft = ⟨d.bare, none⟩ := by
  obtain ⟨table, entity, cs, ids, subclasses, translation, translationOf, _⟩ := d
  have start : cs.foldl (fun draft c => draft.column c.1 c.2) (Draft.ofTable table) =
      ⟨⟨table, none, cs, [], [], none, none, []⟩, none⟩ := by
    rw [Draft.foldl_column]
    exact congrArg (fun columns => Draft.mk (.ofColumns table columns []) none)
      (Keyed.writeAll_of_absent columns fun _ _ => List.not_mem_nil)
  have named (entity : Option String) : subclasses.foldl (fun draft s => draft.subclass s.1 s.2)
      (ids.foldl Draft.identifier ⟨⟨table, entity, cs, [], [], none, none, []⟩, none⟩) =
        ⟨⟨table, entity, cs, ids, subclasses, none, none, []⟩, none⟩ := by
    rw [Draft.foldl_identifier]
    exact Draft.foldl_subclass discriminators
  cases entity <;> cases translation <;> cases translationOf <;>
    simp only [draft, start, Draft.entity, named] <;> rfl

theorem forall_translationNames {holds : String → Prop} :
    (∀ column ∈ Draft.translationNames m, holds column) ↔
      ∀ columns, m.translationColumns = some columns →
        holds columns.translatableId ∧ holds columns.languageId := by
  unfold Draft.translationNames
  cases m.translationColumns <;> simp [and_comm]

/-- With sound relationships, a description is sound just if the table is what it has to be. -/
theorem Describes.sound_iff (describes : d.Describes m) (each : ∀ r ∈ d.relationships, r.Sound) :
    d.Sound ↔ (m.properties.Nodup ∧ m.foreignColumns.Nodup) ∧ m.table ≠ "" ∧
      (∀ column ∈ m.identifier, column ∈ m.columns.names) ∧
      ∀ column ∈ Draft.translationNames m, column ∈ m.columns.names := by
  rw [Metadata.properties, Metadata.foreignColumns, forall_translationNames,
    RelationshipDefinition.properties_of_described describes.relationships,
    RelationshipDefinition.foreignColumns_of_described describes.relationships each,
    describes.identifier, describes.table, describes.columns, describes.translationColumns]
  constructor
  · rintro ⟨named, identifier, translation, -, properties, linkColumns⟩
    exact ⟨⟨properties, linkColumns⟩, named, identifier, translation⟩
  · rintro ⟨⟨properties, linkColumns⟩, named, identifier, translation⟩
    exact ⟨named, identifier, translation, each, properties, linkColumns⟩

theorem metadata_eq_ok (columns : d.columns.names.Nodup)
    (discriminators : d.subclasses.names.Nodup) :
    d.metadata = .ok m ↔ d.Sound ∧ d.Describes m := by
  have parts : d.metadata = d.relationships.mapM RelationshipDefinition.relationship >>=
      fun rs => (rs.foldl Draft.relationship d.draft).finish := by
    unfold metadata
    cases d.relationships.mapM RelationshipDefinition.relationship <;> rfl
  have added (rs : List Relationship) : (rs.foldl Draft.relationship d.draft).finish = _ :=
    draft_eq columns discriminators ▸ Draft.finish_foldl_attempt d.bare rs
  simp only [parts, added, bind_eq_ok,
    Metadata.addRelationships_eq_ok (m := d.bare) List.nodup_nil List.nodup_nil,
    Draft.finish_eq_ok]
  constructor
  · rintro ⟨rs, read, _, ⟨built, distinct⟩, rfl, checked⟩
    have each := (mapM_ok read).imp fun _ _ => RelationshipDefinition.relationship_eq_ok.mp
    have sound : ∀ r ∈ d.relationships, r.Sound := by
      intro r member
      obtain ⟨_, -, isSound, -⟩ := exists_right_of_forall₂ each member
      exact isSound
    have describes : d.Describes m := by
      subst built
      exact ⟨rfl, rfl, rfl, rfl, rfl, rfl, rfl, each.imp fun _ _ => And.right⟩
    exact ⟨(describes.sound_iff sound).mpr ⟨distinct, checked⟩, describes⟩
  · rintro ⟨sound, describes⟩
    obtain ⟨distinct, checked⟩ := (describes.sound_iff sound.relationships).mp sound
    refine ⟨m.relationships, mapM_of_forall₂ ?_, m, ⟨?_, distinct⟩, rfl, checked⟩
    · exact (forall₂_and_mem describes.relationships).imp fun r _ ⟨here, member, _⟩ =>
        RelationshipDefinition.relationship_eq_ok.mpr ⟨sound.relationships r member, here⟩
    · obtain ⟨table, entity, cs, ids, subclasses, translation, translationOf, rs⟩ := m
      obtain ⟨rfl, rfl, rfl, rfl, rfl, rfl, rfl, -⟩ := describes
      rfl

theorem nodup_asKeyed? {α : Type} {read : Json → Option α} {j : Json} {entries : Keyed α}
    (ok : j.asKeyed? read = some entries) : entries.names.Nodup := by
  cases j with
  | obj members =>
    obtain ⟨values, -, rfl⟩ := Option.map_eq_some_iff.mp ok
    exact Keyed.nodup_ofList values
  | _ => cases ok

/-- The maps of a description that is read from data name each of their entries once. -/
theorem nodup_of_ofJson? {j : Json} (read : ofJson? j = some d) :
    d.columns.names.Nodup ∧ d.subclasses.names.Nodup := by
  simp only [ofJson?, Option.bind_eq_bind, Option.bind_eq_some_iff] at read
  obtain ⟨members, -, table, -, entity, -, columns, hasColumns, ids, -, subclasses, hasSubclasses,
    translation, -, translationOf, -, relationships, -, same⟩ := read
  obtain rfl := Option.some.inj same
  constructor
  · obtain ⟨_, -, isColumns⟩ := Option.bind_eq_some_iff.mp hasColumns
    exact nodup_asKeyed? isColumns
  · unfold Json.withDefault? at hasSubclasses
    split at hasSubclasses
    · exact nodup_asKeyed? hasSubclasses
    · cases hasSubclasses
      exact List.nodup_nil

/-- A description whose maps name each of their entries once is accepted just if it is sound, and the
table has what the description says, in its order. -/
theorem metadata_of_definition (d : TableDefinition) (columns : d.columns.names.Nodup)
    (discriminators : d.subclasses.names.Nodup) :
    ((∃ m, d.metadata = .ok m) ↔ d.Sound) ∧ ∀ m, d.metadata = .ok m → d.Describes m := by
  refine ⟨⟨?_, fun sound => ?_⟩, fun m ok => ((metadata_eq_ok columns discriminators).mp ok).2⟩
  · rintro ⟨m, ok⟩
    exact ((metadata_eq_ok columns discriminators).mp ok).1
  · obtain ⟨rs, read⟩ := exists_mapM_ok.mpr fun r member =>
      (RelationshipDefinition.exists_relationship (sound.relationships r member)).imp
        fun _ => And.left
    have each := (mapM_ok read).imp fun _ _ ok =>
      (RelationshipDefinition.relationship_eq_ok.mp ok).2
    exact ⟨{ d.bare with relationships := rs }, (metadata_eq_ok columns discriminators).mpr
      ⟨sound, rfl, rfl, rfl, rfl, rfl, rfl, rfl, each⟩⟩

/-- An article has an author and comments. The account that it belongs to shares its identifier. -/
def article : TableDefinition where
  table := "article"
  entity := some "Article"
  columns := [("id", .integer), ("title", .string), ("author_fk", .integer)]
  identifier := ["id"]
  subclasses := [("essay", "essay"), ("report", "report")]
  translation := some "article_text"
  translationOf := none
  relationships := [
    ⟨"Person", "author", some "author_fk", "id", .subSelect, .manyToOne⟩,
    ⟨"Comment", "comments", none, "article_fk", .joined, .oneToMany⟩,
    ⟨"Account", "account", some "id", "id", .joined, .manyToOne⟩,
    ⟨"Draft", "draft", some "id", "id", .joined, .manyToOne⟩]

theorem metadata_of_definition_article :
    article.columns.names.Nodup ∧ article.subclasses.names.Nodup ∧ article.Sound ∧
      ∃ m, article.metadata = .ok m ∧ article.Describes m := by
  have columns : article.columns.names.Nodup := by decide
  have discriminators : article.subclasses.names.Nodup := by decide
  have sound : article.Sound :=
    ⟨by decide, by decide, (fun _ described => by cases described),
      by simp [article, RelationshipDefinition.Sound], by decide, by decide⟩
  obtain ⟨accepted, described⟩ := metadata_of_definition article columns discriminators
  obtain ⟨m, ok⟩ := accepted.mpr sound
  exact ⟨columns, discriminators, sound, m, ok, described m ok⟩

end TableDefinition
end Relmap
