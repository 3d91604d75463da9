import Relmap.Proofs.Gateway.Copying
import Relmap.Proofs.Gateway.Runs

/-!
# Addresses of translations

A translation is addressed by the identifiers of the translated row and of its language, in two
columns of integers. Main statement, `result_contains`: whether there is a translation is answered
by the rows with both identifiers. In a table that links both by one column this takes equal
identifiers (`Addressable`), since no row holds two numbers there.
-/

namespace Relmap

open Sql Operation

namespace TranslationGateway

/-- Rows are addressed by two columns that are declared for integers. No column has the name of a
filter for one of the two, and the database generates identifiers. -/
structure IntegerLinks (g : TranslationGateway) : Prop where
  translatable : ∃ type, g.base.metadata.columns.get? g.columns.translatableId = some type ∧
    type.isInteger = true
  language : ∃ type, g.base.metadata.columns.get? g.columns.languageId = some type ∧
    type.isInteger = true
  plain : ∀ column ∈ g.base.metadata.columns.names, isPath column = false
  free : ∀ column ∈ g.base.metadata.columns.names,
    column ≠ Gateway.filterName g.columns.translatableId ∧
      column ≠ Gateway.filterName g.columns.languageId
  flat : g.base.metadata.subclasses = []
  generated : g.base.database.capability.generatedIds = true

/-- A row can hold both identifiers: they are in two columns, or they are equal. -/
def Addressable (g : TranslationGateway) (id language : Int64) : Prop :=
  g.columns.translatableId = g.columns.languageId → id = language

/-- The row is a translation into a language, as the database compares its links. -/
def isFor (g : TranslationGateway) (c : Comparison) (id language : Int64) (row : Row) : Bool :=
  c.relation .eq (row.read g.columns.translatableId) (.int id) == .yes &&
    c.relation .eq (row.read g.columns.languageId) (.int language) == .yes

variable {g : TranslationGateway} {id language : Int64} {e : Engine}

theorem key_eq (g : TranslationGateway) (id language : Int64) :
    g.key id language =
      if g.columns.translatableId = g.columns.languageId then
        [(g.columns.languageId, .int language)]
      else [(g.columns.translatableId, .int id), (g.columns.languageId, .int language)] := rfl

section

variable (addressable : g.Addressable id language)
include addressable

theorem mem_key {entry : String × Value} : entry ∈ g.key id language ↔
    entry = (g.columns.translatableId, .int id) ∨
      entry = (g.columns.languageId, .int language) := by
  rw [key_eq]
  split
  · rename_i same
    rw [same, addressable same, or_self, List.mem_singleton]
  · rw [List.mem_cons, List.mem_singleton]

theorem selects_key (row : Row) :
    e.selects (g.key id language) row = g.isFor e.comparison id language row := by
  rw [Bool.eq_iff_iff, Engine.selects_iff, isFor, Bool.and_eq_true, beq_iff_eq, beq_iff_eq]
  simp only [mem_key addressable]
  constructor
  · intro each
    exact ⟨each _ (.inl rfl), each _ (.inr rfl)⟩
  · rintro ⟨translates, speaks⟩ entry (rfl | rfl)
    · exact translates
    · exact speaks

theorem holdsIntegers_key (links : g.IntegerLinks) :
    g.base.HoldsIntegers (g.key id language) := by
  intro entry member
  rcases (mem_key addressable).mp member with rfl | rfl
  · obtain ⟨type, declared, integer⟩ := links.translatable
    exact ⟨type, id, declared, integer, rfl⟩
  · obtain ⟨type, declared, integer⟩ := links.language
    exact ⟨type, language, declared, integer, rfl⟩

end

theorem nodup_key (g : TranslationGateway) (id language : Int64) :
    (g.key id language).names.Nodup := by
  rw [key_eq]
  split
  · exact List.nodup_singleton _
  · rename_i apart
    exact List.nodup_cons.mpr ⟨by simpa using apart, List.nodup_singleton _⟩

theorem key_ne_nil (g : TranslationGateway) (id language : Int64) : g.key id language ≠ [] := by
  rw [key_eq]
  split <;> exact List.cons_ne_nil _ _

theorem names_key (addressable : g.Addressable id language)
    {column : String} (named : column ∈ (g.key id language).names) :
    column = g.columns.translatableId ∨ column = g.columns.languageId := by
  obtain ⟨entry, member, rfl⟩ := List.mem_map.mp named
  exact ((mem_key addressable).mp member).imp (congrArg Prod.fst) (congrArg Prod.fst)

theorem nodup_append_key (addressable : g.Addressable id language)
    {row : Row} (distinct : row.names.Nodup)
    (other : ∀ column ∈ row.names,
      column ≠ g.columns.translatableId ∧ column ≠ g.columns.languageId) :
    (row ++ g.key id language).names.Nodup := by
  rw [Keyed.names, List.map_append]
  refine distinct.append (g.nodup_key id language) fun column named linked => ?_
  obtain ⟨apart, apart'⟩ := other column named
  exact (names_key addressable linked).elim apart apart'

theorem mem_names_of_links (links : g.IntegerLinks)
    (addressable : g.Addressable id language) {column : String}
    (named : column ∈ (g.key id language).names) : column ∈ g.base.metadata.columns.names := by
  obtain ⟨entry, member, rfl⟩ := List.mem_map.mp named
  obtain ⟨type, _, declared, -⟩ := holdsIntegers_key addressable links entry member
  exact List.mem_map_of_mem (f := (·.1)) (Keyed.mem_of_get? declared)

/-! ## Whether there is a translation -/

theorem contains_eq (g : TranslationGateway) (id language : Int64) :
    g.contains id language =
      (g.base.find (.ofRow (g.key id language)) [] (some 1) 0).bind fun rows =>
        finish (.ok rows.head?.isSome) := by
  show ((g.base.find (.ofRow (g.key id language)) [] (some 1) 0).bind fun rows =>
    finish (.ok rows.head?)).bind (fun row => finish (.ok row.isSome)) = _
  rw [Operation.bind_assoc]
  rfl

/-- The rows that the query for a translation finds are those that are for it. -/
theorem exists_keyQuery (links : g.IntegerLinks)
    (addressable : g.Addressable id language) :
    ∃ q params, g.base.findQuery (.ofRow (g.key id language)) [] (some 1) 0 = .ok (q, params) ∧
      q.columns = g.base.outputItems ∧ q.limit = some 1 ∧ q.offset = none ∧
      ∀ (e : Engine) (tables : Tables), (e.setting tables params).selected q [] =
        ((tables g.base.table).filter (g.isFor e.comparison id language)).map
          fun row => [(g.base.aliasName, row)] := by
  obtain ⟨conditions, params, found, reads, distinct⟩ :=
    Gateway.exists_findQuery links.flat (holdsIntegers_key addressable links)
      (fun column named => links.plain column (mem_names_of_links links addressable named))
      (g.key_ne_nil id language)
  refine ⟨_, params, found, rfl, rfl, rfl, fun e tables => ?_⟩
  rw [Gateway.selected_flat, List.filter_map]
  congr 1
  refine List.filter_congr fun row _ => ?_
  rw [← selects_key addressable, Bool.eq_iff_iff, Function.comp_apply, beq_iff_eq,
    Gateway.truth_reads (holdsIntegers_key addressable links) reads distinct]

/-- Whether there is a translation is answered by what the tables hold, unless a row of the table
cannot be read. -/
theorem result_contains (links : g.IntegerLinks)
    (addressable : g.Addressable id language) (tables : Tables) :
    (∃ fault, result e.driver (g.contains id language) tables = (.error fault, tables) ∧
      ¬∀ row ∈ tables g.base.table, g.base.Readable row) ∨
    result e.driver (g.contains id language) tables =
      (.ok ((tables g.base.table).any (g.isFor e.comparison id language)), tables) := by
  obtain ⟨q, params, found, columns, limit, offset, selected⟩ :=
    exists_keyQuery links addressable
  have queried := Gateway.result_find (e := e) found tables
  rw [contains_eq]
  cases read : g.base.toApplicationAll (e.answers tables params q) with
  | error fault =>
    rw [read] at queried
    refine .inl ⟨fault, result_bind_of_error queried _, fun readable => ?_⟩
    obtain ⟨answer, member, failed⟩ := mapM_error read
    obtain ⟨names, isSelected, rfl⟩ := Engine.mem_answers member
    rw [selected] at isSelected
    obtain ⟨row, kept, rfl⟩ := List.mem_map.mp isSelected
    obtain ⟨a, isRead⟩ := Gateway.read_answered e tables params links.flat
      (readable row (List.mem_filter.mp kept).1)
    rw [columns] at failed
    cases isRead.symm.trans failed
  | ok rows =>
    rw [read] at queried
    refine .inr ((result_bind_of_ok queried _).trans (congrArg (Except.ok ·, tables) ?_))
    have none : e.answers tables params q = [] ↔
        (tables g.base.table).any (g.isFor e.comparison id language) = false := by
      rw [Engine.answers_eq_nil limit offset, selected]
      simp
    have lengths := (mapM_ok read).length_eq
    cases rows with
    | nil => exact (none.mp (List.length_eq_zero_iff.mp lengths)).symm
    | cons row rest =>
      cases there : (tables g.base.table).any (g.isFor e.comparison id language) with
      | true => rfl
      | false =>
        rw [none.mpr there] at lengths
        cases lengths

end TranslationGateway
end Relmap
