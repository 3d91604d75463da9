import Relmap.Proofs.Gateway.Copying
import Relmap.Proofs.Gateway.Scoped
import Relmap.Proofs.Gateway.Written
import Relmap.Proofs.Schema.Names

/-!
# Names of output columns

A query for rows names its output columns, and a fetched value is converted by the type that its name
resolves to. Main statement, `outputs_resolve`: a value is converted by the type of the column that
it is read from, unless something else comes before this column under its name. The names of
subclass columns, bare and after the discriminator, are in one namespace with those of the table and
its translation, so that this does happen, as `not_resolves_party` shows.
-/

namespace Relmap

open Sql

/-- The name of an output column in the rows that are fetched. -/
def Sql.SelectItem.name? (item : SelectItem) : Option String :=
  item.aliasName.or item.expr.columnName?

theorem Registry.names_subclassesOf_sublist (r : Registry) (m : Metadata) :
    (r.subclassesOf m).names.Sublist m.subclasses.names := by
  unfold subclassesOf
  induction m.subclasses with
  | nil => exact .slnil
  | cons s rest ih =>
    rw [List.filterMap_cons]
    cases r.find? s.2 with
    | none => exact ih.cons s.1
    | some child => exact ih.cons_cons s.1

namespace Gateway

/-- The output columns of a query for rows by name, each with the type that its table declares and
with the table that it is read from. -/
def outputs (g : Gateway) : Keyed ResolvedColumn :=
  g.metadata.columns.map (fun c => (c.1, ⟨c.2, .direct⟩))
    ++ g.subclasses.flatMap fun s =>
      s.2.columns.map fun c => (prefixedColumn s.1 c.1, ⟨c.2, .inherited s.2.table⟩)

/-- An expression reads a column of the table, or of a subclass, that is declared with the type. -/
inductive ReadsFrom (g : Gateway) : Expr → ResolvedColumn → Prop
  | own {column : String} {type : ColumnType} :
      g.metadata.columns.get? column = some type →
      ReadsFrom g (.of g.aliasName column) ⟨type, .direct⟩
  | inherited {discriminator column : String} {child : Metadata} {type : ColumnType} :
      (discriminator, child) ∈ g.subclasses →
      child.columns.get? column = some type →
      ReadsFrom g (.of child.table column) ⟨type, .inherited child.table⟩

/-- An output column has a name and reads a column of a table. -/
structure Yields (g : Gateway) (item : SelectItem) (output : String × ResolvedColumn) : Prop where
  name : item.name? = some output.1
  reads : g.ReadsFrom item.expr output.2

/-- Two output columns have one name: the table has a column that is named like one of a subclass
after its discriminator, or two subclasses do not differ in such a name. -/
inductive NamesClash (g : Gateway) : Prop
  | own {discriminator column : String} {child : Metadata} :
      (discriminator, child) ∈ g.subclasses → child.hasColumn column = true →
      g.metadata.hasColumn (prefixedColumn discriminator column) = true → NamesClash g
  | subclasses {first second column other : String} {child child' : Metadata} :
      (first, child) ∈ g.subclasses → child.hasColumn column = true →
      (second, child') ∈ g.subclasses → child'.hasColumn other = true → first ≠ second →
      prefixedColumn first column = prefixedColumn second other → NamesClash g

/-- Something else comes before an inherited column under its name: a column of the table, one of
its translation, or what the first subclass that has the name has under it, be it a column of the
name or one that has it after the discriminator. -/
inductive Overtaken (g : Gateway) (name : String) : ResolvedColumn → Prop
  | own {type : ColumnType} {table : String} :
      g.metadata.hasColumn name = true → Overtaken g name ⟨type, .inherited table⟩
  | translated {type : ColumnType} {table : String} :
      g.registry.TranslationDeclares g.metadata name → Overtaken g name ⟨type, .inherited table⟩
  | inherited {type type' : ColumnType} {table discriminator : String} {child : Metadata}
      {before later : Keyed Metadata} :
      g.subclasses = before ++ (discriminator, child) :: later →
      (∀ s ∈ before, s.2.reached? s.1 name = none) →
      child.reached? discriminator name = some type' →
      (type', child.table) ≠ (type, table) → Overtaken g name ⟨type, .inherited table⟩

/-- A value that is fetched under the name is converted to an application's value by the type. -/
def ConvertsBy (g : Gateway) (name : String) (type : ColumnType) : Prop :=
  ∀ {fetched row : Row} {value : Value}, g.toApplication fetched = .ok row →
    fetched.get? name = some value →
    ∃ a, type.toApplication value = .ok a ∧ row.get? name = some a

variable {g : Gateway}

/-! ## Output columns -/

theorem columns_source {columns : List SelectItem} {q : Select} (ok : g.source columns = .ok q) :
    q.columns = columns := by
  obtain ⟨joins, rfl⟩ := source_ok ok
  rfl

theorem mem_subclasses {s : String × Metadata} (member : s ∈ g.subclasses) :
    s.2 ∈ g.registry.tables :=
  (g.registry.mem_subclassesOf.mp member).1

theorem metadata_mem (g : Gateway) : g.metadata ∈ g.registry.tables :=
  List.mem_of_find?_eq_some g.registered

theorem mem_prefixedNames {s : String × Metadata} {name : String} :
    name ∈ s.2.columns.names.map (prefixedColumn s.1) ↔
      ∃ column, s.2.hasColumn column = true ∧ prefixedColumn s.1 column = name := by
  simp only [List.mem_map, Metadata.hasColumn, Keyed.has_iff_mem_names]

theorem names_outputs (g : Gateway) : g.outputs.names =
    g.metadata.columns.names
      ++ g.subclasses.flatMap fun s => s.2.columns.names.map (prefixedColumn s.1) := by
  simp only [outputs, Keyed.names, List.map_append, List.map_map, List.map_flatMap,
    Function.comp_def]

section

variable (once : g.registry.NamesOnce)
include once

theorem yields_ownItems : List.Forall₂ g.Yields
    (g.metadata.columns.names.map fun column => ⟨.of g.aliasName column, none⟩)
    (g.metadata.columns.map fun c => (c.1, ⟨c.2, .direct⟩)) := by
  rw [Keyed.names, List.map_map, List.forall₂_map_left_iff, List.forall₂_map_right_iff,
    List.forall₂_same]
  intro c member
  exact ⟨rfl, .own (Keyed.get?_of_mem (once _ g.metadata_mem).columns member)⟩

theorem yields_subclassItems {s : String × Metadata} (isSubclass : s ∈ g.subclasses) :
    List.Forall₂ g.Yields (subclassItems s.1 s.2)
      (s.2.columns.map fun c => (prefixedColumn s.1 c.1, ⟨c.2, .inherited s.2.table⟩)) := by
  rw [subclassItems, Keyed.names, List.map_map, List.forall₂_map_left_iff,
    List.forall₂_map_right_iff, List.forall₂_same]
  intro c member
  exact ⟨rfl, .inherited isSubclass
    (Keyed.get?_of_mem (once _ (mem_subclasses isSubclass)).columns member)⟩

theorem yields_outputItems : List.Forall₂ g.Yields g.outputItems g.outputs := by
  refine List.rel_append (yields_ownItems once) ?_
  have same : List.Forall₂ (fun s t => s = t ∧ s ∈ g.subclasses) g.subclasses g.subclasses :=
    List.forall₂_same.mpr fun s member => ⟨rfl, member⟩
  refine List.rel_flatMap same ?_
  rintro s _ ⟨rfl, isSubclass⟩
  exact yields_subclassItems once isSubclass

theorem mem_outputs {output : String × ResolvedColumn} (member : output ∈ g.outputs) :
    (∃ type, g.metadata.columns.get? output.1 = some type ∧ output.2 = ⟨type, .direct⟩) ∨
      ∃ s ∈ g.subclasses, ∃ column type, s.2.columns.get? column = some type ∧
        output = (prefixedColumn s.1 column, ⟨type, .inherited s.2.table⟩) := by
  rcases List.mem_append.mp member with own | inherited
  · obtain ⟨c, isColumn, rfl⟩ := List.mem_map.mp own
    exact .inl ⟨c.2, Keyed.get?_of_mem (once _ g.metadata_mem).columns isColumn, rfl⟩
  · obtain ⟨s, isSubclass, isOutput⟩ := List.mem_flatMap.mp inherited
    obtain ⟨c, isColumn, rfl⟩ := List.mem_map.mp isOutput
    exact .inr ⟨s, isSubclass, c.1, c.2,
      Keyed.get?_of_mem (once _ (mem_subclasses isSubclass)).columns isColumn, rfl⟩

/-! ## Distinct names -/

theorem nodup_subclasses : g.subclasses.names.Nodup :=
  (once _ g.metadata_mem).discriminators.sublist
    (g.registry.names_subclassesOf_sublist g.metadata)

/-- Subclasses are told apart by their discriminators. -/
theorem pairwise_subclasses_iff {apart : String × Metadata → String × Metadata → Prop}
    (symm : ∀ s t, apart s t → apart t s) :
    g.subclasses.Pairwise apart ↔
      ∀ s ∈ g.subclasses, ∀ t ∈ g.subclasses, s.1 ≠ t.1 → apart s t := by
  have distinct := nodup_subclasses once
  constructor
  · intro pairwise s isSubclass t isSubclass' differ
    have : Std.Symm apart := ⟨symm⟩
    exact pairwise.forall isSubclass isSubclass' fun same => differ (congrArg Prod.fst same)
  · intro each
    refine (List.Nodup.of_map _ distinct).pairwise_of_forall_ne fun s isSubclass t isSubclass' => ?_
    intro differ
    refine each s isSubclass t isSubclass' fun same => differ ?_
    exact List.inj_on_of_nodup_map distinct isSubclass isSubclass' same

theorem nodup_outputs_iff : g.outputs.names.Nodup ↔ ¬g.NamesClash := by
  rw [names_outputs, List.nodup_append', List.nodup_flatMap,
    pairwise_subclasses_iff once fun _ _ => List.disjoint_symm]
  constructor
  · rintro ⟨-, ⟨-, apart⟩, disjoint⟩ clash
    cases clash with
    | own isSubclass declared own =>
      exact disjoint ((Keyed.has_iff_mem_names _ _).mp own)
        (List.mem_flatMap.mpr ⟨_, isSubclass, mem_prefixedNames.mpr ⟨_, declared, rfl⟩⟩)
    | subclasses isSubclass declared isSubclass' declared' differ same =>
      exact apart _ isSubclass _ isSubclass' differ (mem_prefixedNames.mpr ⟨_, declared, rfl⟩)
        (mem_prefixedNames.mpr ⟨_, declared', same.symm⟩)
  · intro free
    refine ⟨(once _ g.metadata_mem).columns, ⟨fun s isSubclass => ?_, ?_⟩, ?_⟩
    · exact (once _ (mem_subclasses isSubclass)).columns.map (prefixedColumn_injective s.1)
    · intro s isSubclass t isSubclass' differ name here there
      obtain ⟨column, declared, named⟩ := mem_prefixedNames.mp here
      obtain ⟨other, declared', named'⟩ := mem_prefixedNames.mp there
      exact free (.subclasses isSubclass declared isSubclass' declared' differ
        (named.trans named'.symm))
    · intro name own inherited
      obtain ⟨s, isSubclass, here⟩ := List.mem_flatMap.mp inherited
      obtain ⟨column, declared, rfl⟩ := mem_prefixedNames.mp here
      exact free (.own isSubclass declared ((Keyed.has_iff_mem_names _ _).mpr own))

end

/-! ## What a name resolves to -/

/-- A name that a subclass has is resolved: to a column of that subclass unless something else comes
before it. -/
theorem exists_resolve {name table : String} {type : ColumnType} {s : String × Metadata}
    (isSubclass : s ∈ g.subclasses) (reached : s.2.reached? s.1 name ≠ none) :
    ∃ resolved, g.registry.resolve g.metadata name = .ok resolved ∧
      (resolved = ⟨type, .inherited table⟩ ↔ ¬g.Overtaken name ⟨type, .inherited table⟩) := by
  by_cases declared : g.metadata.hasColumn name = true
  · obtain ⟨type', found⟩ := Registry.get?_of_declared (r := g.registry) declared
    exact ⟨_, Registry.resolve_eq_ok.mpr found, iff_of_false nofun (not_not.mpr (.own declared))⟩
  have undeclared : g.metadata.hasColumn name = false := Bool.not_eq_true _ ▸ declared
  by_cases translated : g.registry.TranslationDeclares g.metadata name
  · obtain ⟨type', t, found⟩ := Registry.get?_of_translated undeclared translated
    exact ⟨_, Registry.resolve_eq_ok.mpr found,
      iff_of_false nofun (not_not.mpr (.translated translated))⟩
  have found := Registry.get?_of_untranslated undeclared translated
  cases inherited : g.registry.inheritedColumn? g.metadata name with
  | none =>
    rw [Registry.inheritedColumn?, List.findSome?_eq_none_iff] at inherited
    exact absurd (Option.map_eq_none_iff.mp (inherited s isSubclass)) reached
  | some resolved =>
    refine ⟨resolved, Registry.resolve_eq_ok.mpr (found.trans inherited), ?_⟩
    constructor
    · rintro rfl (here | here | ⟨split, none, reached', differ⟩)
      · exact declared here
      · exact translated here
      · have first :=
          Registry.inheritedColumn?_eq_some.mpr ⟨_, _, _, _, split, none, reached', rfl⟩
        rw [inherited] at first
        cases first
        exact differ rfl
    · intro first
      obtain ⟨before, t, later, type', split, none, reached', rfl⟩ :=
        Registry.inheritedColumn?_eq_some.mp inherited
      by_contra differ
      refine first (.inherited split none reached' fun same => differ ?_)
      cases same
      rfl

theorem convertsBy_of_resolve {name : String} {resolved : ResolvedColumn}
    (resolves : g.registry.resolve g.metadata name = .ok resolved) :
    g.ConvertsBy name resolved.type := by
  intro fetched row value read found
  exact get?_of_read read found (Registry.columnType_of_resolve resolves)

/-- The output columns of a query for rows are those of the table and of its subclasses. Their names
differ if none clash. Each name is resolved, and fetched values are converted by what it resolves to,
which is the column that the values are read from unless something else comes before it. -/
theorem outputs_resolve {q : Select} (once : g.registry.NamesOnce) (ok : g.selectQuery = .ok q) :
    List.Forall₂ g.Yields q.columns g.outputs ∧
    (g.outputs.names.Nodup ↔ ¬g.NamesClash) ∧
    ∀ output ∈ g.outputs, ∃ resolved,
      g.registry.resolve g.metadata output.1 = .ok resolved ∧
      (resolved = output.2 ↔ ¬g.Overtaken output.1 output.2) ∧
      g.ConvertsBy output.1 resolved.type := by
  refine ⟨?_, nodup_outputs_iff once, fun output member => ?_⟩
  · rw [columns_source ok]
    exact yields_outputItems once
  · rcases mem_outputs once member with ⟨type, declared, own⟩ | inherited
    · have resolves := Registry.resolve_of_declared (r := g.registry) declared
      refine ⟨_, resolves, ?_, convertsBy_of_resolve resolves⟩
      rw [own]
      exact iff_of_true rfl nofun
    · obtain ⟨s, isSubclass, column, type, declared, rfl⟩ := inherited
      have reached : s.2.reached? s.1 (prefixedColumn s.1 column) ≠ none := by
        intro none
        refine (Metadata.reached?_eq_none.mp none).2 column ?_ rfl
        rw [Metadata.hasColumn, Keyed.has, declared, Option.isSome_some]
      obtain ⟨resolved, resolves, iff⟩ := exists_resolve isSubclass reached
      exact ⟨resolved, resolves, iff, convertsBy_of_resolve resolves⟩

/-- A subclass column is found under its discriminator although a later subclass declares a column of
that name. -/
theorem outputs_resolve_fauna :
    ∃ q, faunaGateway.selectQuery = .ok q ∧
      List.Forall₂ faunaGateway.Yields q.columns faunaGateway.outputs ∧
      ¬faunaGateway.NamesClash ∧
      ("cat_age", ⟨.integer, .inherited "cat"⟩) ∈ faunaGateway.outputs ∧
      ¬faunaGateway.Overtaken "cat_age" ⟨.integer, .inherited "cat"⟩ ∧
      faunaGateway.ConvertsBy "cat_age" .integer := by
  obtain ⟨q, ok⟩ : ∃ q, faunaGateway.selectQuery = .ok q := ⟨_, rfl⟩
  obtain ⟨items, distinct, each⟩ := outputs_resolve (g := faunaGateway) (by decide) ok
  have member : ("cat_age", ⟨.integer, .inherited "cat"⟩) ∈ faunaGateway.outputs := by decide
  obtain ⟨resolved, resolves, own, converts⟩ := each _ member
  obtain rfl : ⟨.integer, .inherited "cat"⟩ = resolved := Except.ok.inj (Eq.trans (by rfl) resolves)
  exact ⟨q, ok, items, distinct.mp (by decide), member, own.mp rfl, converts⟩

def partyTable : Metadata :=
  { Metadata.ofColumns "party" [("id", .integer)] ["id"] with
    subclasses := [("member", "member"), ("club", "club")]
    translation := some "party_text" }

def memberTable : Metadata :=
  Metadata.ofColumns "member" [("id", .integer), ("club_owner", .boolean)] ["id"]

def clubTable : Metadata :=
  Metadata.ofColumns "club" [("id", .integer), ("owner", .integer), ("size", .integer)] ["id"]

def partyTextTable : Metadata :=
  { Metadata.ofColumns "party_text"
      [("party", .integer), ("language", .integer), ("club_size", .string)]
      ["party", "language"] with
    translationColumns := some ⟨"party", "language"⟩ }

/-- Parties: members, who may own a club, and clubs, which have an owner and a size that is also told
in words. -/
def partyGateway : Gateway :=
  ⟨⟨⟨[partyTable, memberTable, clubTable, partyTextTable], by decide⟩, ⟨true, true⟩⟩, partyTable,
    "party", rfl⟩

/-- The owner of a club is fetched under the name of another subclass's column, its size under that of
a column of the translation, and both are converted by the types of these. -/
theorem not_resolves_party :
    ∃ q, partyGateway.selectQuery = .ok q ∧
      q.columns.drop 4 = [⟨.of "club" "owner", some "club_owner"⟩,
        ⟨.of "club" "size", some "club_size"⟩] ∧
      clubTable.columns.get? "owner" = some .integer ∧
      clubTable.columns.get? "size" = some .integer ∧
      partyGateway.outputs.names.Nodup ∧
      partyGateway.registry.resolve partyTable "club_owner" =
        .ok ⟨.boolean, .inherited "member"⟩ ∧
      partyGateway.registry.resolve partyTable "club_size" =
        .ok ⟨.string, .translation "party_text"⟩ ∧
      partyGateway.toApplication [("club_owner", .int 7), ("club_size", .int 30)] =
        .ok [("club_owner", .bool true), ("club_size", .text "30")] :=
  ⟨_, rfl, rfl, rfl, rfl, by decide, rfl, rfl, rfl⟩

end Gateway
end Relmap
