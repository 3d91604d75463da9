import Relmap.Proofs.Gateway.Requests
import Relmap.Proofs.Schema.Flags

/-!
# Columns of a write

Which columns an insertion, an update or a deletion names in its statement. Main statement,
`written_columns`: they are the columns of the rows that it is given, and the table reaches each of
them. The statement is about that table alone, whereas a column may be reached in the translation or
in a subclass; `writes_undeclared` shows that it is sent all the same.
-/

namespace Relmap

/-! ## Columns of a statement -/

namespace Sql

/-- The column that an expression names. -/
def Expr.columnName? : Expr → Option String
  | .column _ name => some name
  | _ => none

namespace Statement

/-- The table that a statement changes. -/
def target? : Statement → Option String
  | .query _ => none
  | .insert table _ | .update table _ _ | .delete table _ => some table

/-- The columns that a statement assigns. -/
def assigned : Statement → List String
  | .insert _ values | .update _ values _ => values.map (·.1)
  | .query _ | .delete _ _ => []

/-- The columns on which the filter of a change depends. -/
def filtered : Statement → List String
  | .update _ _ filter | .delete _ filter => (nodesOfAll filter).filterMap Expr.columnName?
  | .query _ | .insert _ _ => []

/-- The columns on which the filter of a change depends, and those that it assigns. -/
def written (s : Statement) : List String := s.filtered ++ s.assigned

end Statement
end Sql

open Sql

/-! ## Columns of other tables -/

namespace Registry

variable {r : Registry} {m : Metadata} {column : String}

/-- A table does not have the column, but its translation or one of its subclasses does. -/
def ReachedElsewhere (r : Registry) (m : Metadata) (column : String) : Prop :=
  m.hasColumn column = false ∧ (r.TranslationDeclares m column ∨
    ∃ s ∈ r.subclassesOf m, (s.2.reached? s.1 column).isSome = true)

theorem reached_of_columnType {type : ColumnType} (ok : r.columnType m column = .ok type) :
    m.hasColumn column = true ∨ r.ReachedElsewhere m column := by
  obtain ⟨resolved, found, -⟩ := map_eq_ok.mp ok
  rw [resolve_eq_ok] at found
  cases declared : m.hasColumn column with
  | true => exact .inl rfl
  | false =>
    refine .inr ⟨declared, ?_⟩
    by_cases translated : r.TranslationDeclares m column
    · exact .inl translated
    · rw [get?_of_untranslated declared translated] at found
      obtain ⟨s, isSubclass, found⟩ := List.exists_of_findSome?_eq_some found
      obtain ⟨type, reached, -⟩ := Option.map_eq_some_iff.mp found
      exact .inr ⟨s, isSubclass, Option.isSome_iff_exists.mpr ⟨type, reached⟩⟩

theorem hasColumn_iff (reached : m.hasColumn column = true ∨ r.ReachedElsewhere m column) :
    m.hasColumn column = true ↔ ¬r.ReachedElsewhere m column := by
  constructor
  · rintro declared ⟨undeclared, -⟩
    rw [undeclared] at declared
    cases declared
  · exact reached.resolve_right

end Registry

/-! ## Columns of the statements of a gateway -/

namespace Gateway

variable {g : Gateway}

theorem columns_assignments (params : List Parameter) :
    (assignments params).map (·.1) = params.map (·.name) := by
  rw [assignments, List.map_map]
  rfl

theorem columns_filters (filters : List Parameter) :
    (nodesOfAll (filters.map filterCondition)).filterMap Expr.columnName? =
      filters.map (·.name) := by
  induction filters with
  | nil => rfl
  | cons p rest ih =>
    obtain ⟨name, value, type⟩ := p
    rw [List.map_cons, nodesOfAll, List.filterMap_append, ih]
    cases value <;> rfl

theorem reached_of_stores {row : Row} {params : List Parameter}
    (stores : List.Forall₂ g.Stores row params) :
    ∀ column ∈ row.names, g.metadata.hasColumn column = true ∨
      g.registry.ReachedElsewhere g.metadata column := by
  induction stores with
  | nil => exact nofun
  | cons first _ ih => exact List.forall_mem_cons.mpr ⟨Registry.reached_of_columnType first.type, ih⟩

namespace Call

/-- The call is to change rows. -/
def isWrite : Call → Bool
  | .insert _ | .update _ _ | .delete _ => true
  | _ => false

/-- What is sent for a write changes the table of the gateway, and the columns that it names are
those of the rows of the call. -/
theorem written_of_sends {call : Call} {request : Request} (write : call.isWrite = true)
    (sent : call.Sends g request) :
    request.statement.target? = some g.table ∧
      request.statement.written = call.rows.flatMap Keyed.names ∧
      ∀ column ∈ request.statement.written, g.metadata.hasColumn column = true ∨
        g.registry.ReachedElsewhere g.metadata column := by
  cases call with
  | insert data =>
    obtain ⟨params, stores, rfl⟩ := insertion_ok (insert_sends sent)
    have names : Statement.written (.insert g.table (assignments params)) = data.names :=
      (columns_assignments params).trans (names_of_stores stores)
    rw [names]
    exact ⟨rfl, (List.flatMap_singleton _ _).symm, reached_of_stores stores⟩
  | update «where» data =>
    obtain ⟨assigned, filters, isAssigned, isFilter, rfl⟩ := updating_ok (update_sends.mp sent)
    have names : Statement.written (.update g.table (assignments assigned)
        (filters.map filterCondition)) = «where».names ++ data.names := by
      rw [Statement.written, Statement.filtered, columns_filters, names_of_stores isFilter,
        Statement.assigned, columns_assignments, names_of_stores isAssigned]
    rw [names]
    refine ⟨rfl, by simp [rows], List.forall_mem_append.mpr ⟨?_, ?_⟩⟩
    · exact reached_of_stores isFilter
    · exact reached_of_stores isAssigned
  | delete «where» =>
    obtain ⟨filters, stores, rfl⟩ := deletion_ok (delete_sends sent)
    have names : Statement.written (.delete g.table (filters.map filterCondition)) =
        «where».names := by
      rw [Statement.written, Statement.filtered, columns_filters, names_of_stores stores,
        Statement.assigned, List.append_nil]
    rw [names]
    exact ⟨rfl, (List.flatMap_singleton _ _).symm, reached_of_stores stores⟩
  | _ => cases write

end Call

/-- A write that is sent changes the table of the gateway. It names the columns of its rows, each of
which the table reaches. All of them are columns of that table iff none is only reached in its
translation or in a subclass. -/
theorem written_columns {call : Call} {request : Request} (write : call.isWrite = true)
    (sent : call.Sends g request) :
    request.statement.target? = some g.table ∧
      request.statement.written = call.rows.flatMap Keyed.names ∧
      (∀ column ∈ request.statement.written, g.metadata.hasColumn column = true ∨
        g.registry.ReachedElsewhere g.metadata column) ∧
      ((∀ column ∈ request.statement.written, g.metadata.hasColumn column = true) ↔
        ∀ row ∈ call.rows, ∀ column ∈ row.names,
          ¬g.registry.ReachedElsewhere g.metadata column) := by
  obtain ⟨target, names, reached⟩ := Call.written_of_sends write sent
  refine ⟨target, names, reached, ?_⟩
  calc (∀ column ∈ request.statement.written, g.metadata.hasColumn column = true)
      ↔ ∀ column ∈ request.statement.written,
          ¬g.registry.ReachedElsewhere g.metadata column :=
        forall₂_congr fun column named => Registry.hasColumn_iff (reached column named)
    _ ↔ ∀ row ∈ call.rows, ∀ column ∈ row.names,
          ¬g.registry.ReachedElsewhere g.metadata column := by
        simp only [names, List.mem_flatMap, forall_exists_index, and_imp]
        exact forall_comm.trans (forall_congr' fun _ => forall_comm)

def faunaGateway : Gateway :=
  ⟨⟨Registry.fauna, ⟨true, true⟩⟩, Registry.faunaTable, "animal", rfl⟩

theorem written_columns_fauna :
    ∃ request, (Call.update [("id", .int 1), ("breed", .null)] [("id", .int 2)]).Sends
        faunaGateway request ∧
      request.statement.target? = some "animal" ∧
      request.statement.written = ["id", "breed", "id"] ∧
      ¬∀ column ∈ request.statement.written, faunaGateway.metadata.hasColumn column = true := by
  have sent : (Call.update [("id", .int 1), ("breed", .null)] [("id", .int 2)]).Sends
    faunaGateway _ := update_sends.mpr rfl
  obtain ⟨target, names, -, iff⟩ := written_columns rfl sent
  refine ⟨_, sent, target, names, fun declared => ?_⟩
  have elsewhere : faunaGateway.registry.ReachedElsewhere faunaGateway.metadata "breed" :=
    ⟨by decide, .inr (by decide)⟩
  exact iff.mp declared _ List.mem_cons_self "breed" (by decide) elsewhere

/-- A column of the translation is assigned and one of a subclass is filtered on, in statements about
a table that has neither. -/
theorem writes_undeclared :
    (∃ request, (Call.insert [("name", .text "Rex")]).Sends faunaGateway request ∧
      request.statement = .insert "animal" [("name", .placeholder "name")]) ∧
    (∃ request, (Call.delete [("dog_breed", .text "pug")]).Sends faunaGateway request ∧
      request.statement =
        .delete "animal" [.equal (.bare "dog_breed") (.placeholder "where_dog_breed")]) ∧
    Registry.faunaTable.hasColumn "name" = false ∧
      Registry.faunaTable.hasColumn "dog_breed" = false :=
  ⟨⟨_, .note .here, rfl⟩, ⟨_, .note .here, rfl⟩, by decide, by decide⟩

end Gateway
end Relmap
