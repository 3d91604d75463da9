import Relmap.Proofs.Gateway.Counting

/-!
# Rows that select

A row selects rows to find, where it is taken as criteria, and rows to change, where it is a filter.
The one chooses tests by the values of the row and stores them afterwards, the other stores the values
and chooses by what is stored. Main statement, `filters_match_find`: both make the same tests and bind
the same values, and rows that can be found can be deleted. Only an update may assign a parameter that
one of its filters takes for its own, as `filters_assigned_stock` shows.
-/

namespace Relmap

open Sql

/-- The column that a parameter is named for, with its value. -/
def Sql.Parameter.entry (p : Parameter) : String × Value := (p.name, p.value)

namespace Gateway

variable {g : Gateway} {row : Row}

/-! ## Tests -/

/-- Placeholders of two requests are bound to one entry of a row, in the form in which it is stored
and under the type of its column. -/
def BindAlike (g : Gateway) (found changed : List Parameter) (entry : String × Value)
    (name name' : String) : Prop :=
  ∃ type stored, g.columnType entry.1 = .ok type ∧ type.toStored entry.2 = .ok stored ∧
    parameter? found name = some ⟨name, stored, type⟩ ∧
    parameter? changed name' = some ⟨name', stored, type⟩

/-- Of two conditions, one finds rows and one filters rows to change, and they test the column of an
entry alike: both for null, for being in a list or for being equal to a value. -/
inductive SameTest (g : Gateway) (found changed : List Parameter) :
    String × Value → Expr × Expr → Prop
  | isNull {column : String} :
      SameTest g found changed (column, .null)
        (.isNull false (.of g.aliasName column), .isNull false (.bare column))
  | isIn {column name name' : String} {items : List Value} :
      g.BindAlike found changed (column, .list items) name name' →
      SameTest g found changed (column, .list items)
        (.inList false (.of g.aliasName column) (.placeholder name),
          .inList false (.bare column) (.placeholder name'))
  | equal {column name name' : String} {value : Value} :
      value.isNull = false → value.isList = false →
      g.BindAlike found changed (column, value) name name' →
      SameTest g found changed (column, value)
        (.equal (.of g.aliasName column) (.placeholder name),
          .equal (.bare column) (.placeholder name'))

/-- The table has a column for the entry, of a type that takes its value. -/
def Storable (g : Gateway) (entry : String × Value) : Prop :=
  ∃ type stored, g.columnType entry.1 = .ok type ∧ type.toStored entry.2 = .ok stored

/-! ## A row as criteria -/

/-- The comparison of an entry. -/
def leafOf (entry : String × Value) : Leaf := ⟨entry.1, .eq, entry.2⟩

theorem parameter?_leafOf (entry : String × Value) (n : Nat) (type : ColumnType) :
    (leafOf entry).parameter? entry.1 n type =
      if entry.2.isNull then none else some ⟨parameterName entry.1 n, entry.2, type⟩ := by
  obtain ⟨column, value⟩ := entry
  cases value <;> rfl

/-- A condition tests the column of an entry, and its value is among the parameters unless it is
null. -/
def Reads (g : Gateway) (params : List Parameter) (entry : String × Value) (e : Expr) : Prop :=
  ∃ n type, g.columnType entry.1 = .ok type ∧
    e = (leafOf entry).condition (.of g.aliasName entry.1)
      (.placeholder (parameterName entry.1 n)) ∧
    ∀ p ∈ (leafOf entry).parameter? entry.1 n type, p ∈ params

/-- A comparison with a column that the table declares always compiles. -/
theorem comparison_declared {entry : String × Value}
    (declared : g.metadata.hasColumn entry.1 = true) (plain : isPath entry.1 = false) (w : Walk) :
    ∃ type, g.columnType entry.1 = .ok type ∧
      w.comparison g.scope entry.1 .eq entry.2 =
        (.ok ((leafOf entry).condition (.of g.aliasName entry.1)
            (.placeholder (parameterName entry.1 w.params.length))),
          ⟨w.query, w.params ++
            ((leafOf entry).parameter? entry.1 w.params.length type).toList⟩) := by
  obtain ⟨column, value⟩ := entry
  obtain ⟨type, found⟩ := Option.isSome_iff_exists.mp declared
  have resolves := Registry.resolve_of_declared (r := g.registry) found
  refine ⟨type, Registry.columnType_of_resolve resolves, ?_⟩
  rw [Walk.comparison, if_neg (Bool.not_eq_true _ ▸ plain), Scope.compareReached,
    show g.scope.registry.resolve g.scope.metadata column = _ from resolves]
  cases value <;> rfl

/-- A row that names columns of the table compiles entry by entry. -/
theorem entries_row (declared : ∀ column ∈ row.names, g.metadata.hasColumn column = true)
    (plain : ∀ column ∈ row.names, isPath column = false) (w : Walk) :
    ∃ conditions added,
      Walk.entries g.scope (row.mapValues .value) w =
        (.ok conditions, ⟨w.query, w.params ++ added⟩) ∧
      List.Forall₂ (g.Reads (w.params ++ added)) row conditions ∧
      ∀ p ∈ added, ∃ entry ∈ row, g.columnType entry.1 = .ok p.type ∧ p.value = entry.2 := by
  induction row generalizing w with
  | nil => exact ⟨[], [], by rw [List.append_nil]; rfl, .nil, nofun⟩
  | cons entry rest ih =>
    obtain ⟨isColumn, declared⟩ := List.forall_mem_cons.mp declared
    obtain ⟨isPlain, plain⟩ := List.forall_mem_cons.mp plain
    obtain ⟨type, typed, first⟩ := comparison_declared isColumn isPlain w
    obtain ⟨conditions, added, later, reads, only⟩ := ih declared plain
      ⟨w.query, w.params ++ ((leafOf entry).parameter? entry.1 w.params.length type).toList⟩
    rw [List.append_assoc] at later reads
    refine ⟨_, _, ?_, .cons ⟨w.params.length, type, typed, rfl, ?_⟩ reads, ?_⟩
    · show Walk.entries g.scope ((entry.1, .value entry.2) :: _) w = _
      rw [Walk.entries, Walk.criterion, first]
      simp only [Walked.map, Keyed.mapValues] at later ⊢
      rw [later]
      rfl
    · intro p isParameter
      exact List.mem_append_right _ (List.mem_append_left _ (Option.mem_toList.mpr isParameter))
    · intro p member
      rcases List.mem_append.mp member with here | later
      · rw [Option.mem_toList, parameter?_leafOf] at here
        split at here <;> cases here
        exact ⟨entry, List.mem_cons_self, typed, rfl⟩
      · obtain ⟨entry, member, typed⟩ := only p later
        exact ⟨entry, List.mem_cons_of_mem _ member, typed⟩

/-- Criteria for a row need no joins. They are no condition if the row is empty. -/
theorem condition_ofRow (declared : ∀ column ∈ row.names, g.metadata.hasColumn column = true)
    (plain : ∀ column ∈ row.names, isPath column = false) :
    ∃ conditions params,
      g.condition (.ofRow row) =
        .ok ⟨if row.isEmpty then none else some (.all conditions), params, []⟩ ∧
      List.Forall₂ (g.Reads params) row conditions ∧
      ∀ p ∈ params, ∃ entry ∈ row, g.columnType entry.1 = .ok p.type ∧ p.value = entry.2 := by
  obtain ⟨conditions, params, walked, reads, only⟩ := entries_row declared plain .start
  refine ⟨conditions, params, ?_, reads, only⟩
  have criteria : Walk.criteria g.scope (.ofRow row) .start =
      (.ok (if row.isEmpty then none else some (.all conditions)), ⟨.empty, params⟩) := by
    cases row with
    | nil =>
      cases walked
      rfl
    | cons entry rest =>
      show (Walk.entries g.scope (Keyed.mapValues .value (entry :: rest)) .start).map _ = _
      rw [walked]
      rfl
  have known : g.registry.scope g.table g.aliasName = .ok g.scope := by
    rw [Registry.scope, g.forTable_table]
    rfl
  simp only [condition, compile, known, Bind.bind, Except.bind, criteria]
  rfl

section

variable {params : List Parameter} {conditions : List Expr}
  (reads : List.Forall₂ (g.Reads params) row conditions)
  (only : ∀ p ∈ params, ∃ entry ∈ row, g.columnType entry.1 = .ok p.type ∧ p.value = entry.2)

include reads only in
/-- The parameters of the criteria can be stored just if the entries of the row can. -/
theorem exists_stored_iff :
    (∃ stored, params.mapM Parameter.toStored = .ok stored) ↔ ∀ entry ∈ row, g.Storable entry := by
  rw [exists_mapM_ok]
  constructor
  · rintro each ⟨column, value⟩ member
    obtain ⟨e, -, n, type, typed, -, bound⟩ := exists_right_of_forall₂ reads member
    by_cases isNull : value.isNull = true
    · obtain rfl : value = .null := by cases value <;> first | rfl | cases isNull
      exact ⟨type, .null, typed, rfl⟩
    · obtain ⟨_, here⟩ := each _ (bound _ (by rw [parameter?_leafOf, if_neg isNull]; rfl))
      obtain ⟨stored, converted, -⟩ := Parameter.toStored_eq_ok.mp here
      exact ⟨type, stored, typed, converted⟩
  · intro each p member
    obtain ⟨entry, isEntry, typed, same⟩ := only p member
    obtain ⟨type, stored, typed', converted⟩ := each entry isEntry
    obtain rfl := Except.ok.inj (typed.symm.trans typed')
    exact ⟨_, Parameter.toStored_eq_ok.mpr ⟨stored, same ▸ converted, rfl⟩⟩

end

/-! ## A row as a filter -/

/-- The values of a row are bound as they are stored. -/
theorem exists_columnParameters {stored : Row} (converts : g.toStored row = .ok stored) :
    ∃ params, g.columnParameters row = .ok params ∧ params.map Parameter.entry = stored := by
  have typed : ∃ params, stored.mapM (fun entry => (g.columnType entry.1).map fun type =>
      (⟨entry.1, entry.2, type⟩ : Parameter)) = .ok params := by
    refine exists_mapM_ok.mpr fun entry member => ?_
    obtain ⟨_, -, same, type, typed, -⟩ :=
      exists_left_of_forall₂ (Registry.convertRow_ok converts) member
    exact ⟨_, map_eq_ok.mpr ⟨type, same ▸ typed, rfl⟩⟩
  obtain ⟨params, named⟩ := typed
  refine ⟨params, bind_eq_ok.mpr ⟨stored, converts, named⟩, ?_⟩
  have each : List.Forall₂ (fun p entry => p.entry = entry) params stored := by
    refine (mapM_ok named).flip.imp fun p entry here => ?_
    obtain ⟨type, -, rfl⟩ := map_eq_ok.mp here
    rfl
  exact List.forall₂_eq_eq_eq ▸ List.forall₂_map_left_iff.mpr each

/-- The values of a row can be bound just if each can be stored. -/
theorem exists_columnParameters_iff :
    (∃ params, g.columnParameters row = .ok params) ↔ ∀ entry ∈ row, g.Storable entry := by
  constructor
  · rintro ⟨params, ok⟩ entry member
    obtain ⟨p, -, stores⟩ := exists_right_of_forall₂ (columnParameters_ok ok) member
    exact ⟨p.type, p.value, stores.type, stores.value⟩
  · intro each
    have converts : ∃ stored, g.toStored row = .ok stored := by
      refine exists_mapM_ok.mpr fun entry member => ?_
      obtain ⟨type, value, typed, converted⟩ := each entry member
      exact ⟨(entry.1, value), bind_eq_ok.mpr ⟨type, typed, bind_eq_ok.mpr ⟨value, converted, rfl⟩⟩⟩
    obtain ⟨stored, isStored⟩ := converts
    obtain ⟨params, bound, -⟩ := exists_columnParameters isStored
    exact ⟨params, bound⟩

theorem deletion_eq_ok {request : Request} :
    g.deletion row = .ok request ↔ ∃ filters, g.columnParameters row = .ok filters ∧
      ⟨.delete g.table (filters.map filterCondition), filterParameters filters⟩ = request := by
  simp only [deletion, bind_eq_ok, pure_eq_ok]

theorem filterCondition_equal {p : Parameter} (notNull : p.value.isNull = false)
    (single : p.value.isList = false) :
    filterCondition p = .equal (.bare p.name) (.placeholder (filterName p.name)) := by
  unfold filterCondition
  split
  · rename_i isNull
    rw [isNull] at notNull
    cases notNull
  · rename_i isList
    rw [isList] at single
    cases single
  · rfl

section

variable {params stored assigned filters : List Parameter} {entry : String × Value} {p : Parameter}
  (isStored : params.mapM Parameter.toStored = .ok stored)
  (distinct : (params.map (·.name)).Nodup) (apart : (filters.map (·.name)).Nodup)
  (free : filterName entry.1 ∉ assigned.map (·.name))
  (isFilter : p ∈ filters) (stores : g.Stores entry p)

include isStored distinct apart free isFilter stores

theorem bindAlike {n : Nat} {type : ColumnType} (typed : g.columnType entry.1 = .ok type)
    (bound : ⟨parameterName entry.1 n, entry.2, type⟩ ∈ params) (notNull : entry.2.isNull = false) :
    g.BindAlike stored (assigned ++ filterParameters filters) entry (parameterName entry.1 n)
      (filterName entry.1) := by
  obtain ⟨value, converted, found⟩ := parameter?_stored isStored distinct bound
  refine ⟨type, value, typed, converted, found, ?_⟩
  have taken : parameter? (assigned ++ filterParameters filters) (filterName p.name) = _ :=
    parameter?_filter apart isFilter (stores.isNull.trans notNull)
  rw [stores.name, parameter?_eq_none.mpr free, Option.getD_none] at taken
  obtain ⟨name, stored', type'⟩ := p
  obtain ⟨rfl, typed', converted', -⟩ := stores
  obtain rfl := Except.ok.inj (typed.symm.trans typed')
  obtain rfl := Except.ok.inj (converted.symm.trans converted')
  exact taken

/-- The filter for an entry makes the test with which criteria read it. -/
theorem sameTest_of_stores {e : Expr} (reads : g.Reads params entry e) :
    g.SameTest stored (assigned ++ filterParameters filters) entry (e, filterCondition p) := by
  obtain ⟨n, type, typed, rfl, bound⟩ := reads
  have alike (notNull : entry.2.isNull = false) :=
    bindAlike isStored distinct apart free isFilter stores typed
      (bound _ (by rw [parameter?_leafOf, notNull]; rfl)) notNull
  have isList := ColumnType.isList_toStored stores.value
  obtain ⟨column, value⟩ := entry
  obtain ⟨name, stored, type⟩ := p
  obtain ⟨rfl, -, converted, isNull⟩ := stores
  -- What is stored is null, a list or neither, as the value of the entry is.
  cases value with
  | null =>
    cases converted
    exact .isNull
  | list items =>
    obtain ⟨items', rfl, -⟩ := ColumnType.toStored_list converted
    exact .isIn (alike rfl)
  | _ =>
    rw [filterCondition_equal isNull isList]
    exact .equal rfl rfl (alike rfl)

end

/-- Each filter makes the test of the criteria unless it takes an assigned value. -/
theorem sameTests_of_pairs {params stored filters : List Parameter} {pairs : List (Expr × Parameter)}
    (isStored : params.mapM Parameter.toStored = .ok stored)
    (distinct : (params.map (·.name)).Nodup) (apart : (filters.map (·.name)).Nodup)
    (each : List.Forall₂ (fun entry pair => g.Reads params entry pair.1 ∧ g.Stores entry pair.2 ∧
      entry ∈ row ∧ pair.2 ∈ filters) row pairs) (assigned : List Parameter) :
    List.Forall₂ (fun entry test => filterName entry.1 ∉ assigned.map (·.name) →
      g.SameTest stored (assigned ++ filterParameters filters) entry test) row
        (pairs.map fun pair => (pair.1, filterCondition pair.2)) := by
  rw [List.forall₂_map_right_iff]
  refine each.imp fun entry pair ⟨reads, stores, _, member⟩ => ?_
  intro free
  exact sameTest_of_stores isStored distinct apart free member stores reads

/-! ## Finding and changing -/

theorem exists_ordered_iff {q : Select} {ordering : Ordering} :
    (∃ q', g.ordered q ordering = .ok q') ↔
      ∀ term ∈ ordering, ∃ e, g.orderExpr term.1 = .ok e := by
  induction ordering generalizing q with
  | nil => exact iff_of_true ⟨q, rfl⟩ nofun
  | cons term rest ih =>
    rw [List.forall_mem_cons]
    simp only [ordered, List.foldlM_cons, bind_eq_ok, map_eq_ok] at ih ⊢
    constructor
    · rintro ⟨q', _, ⟨e, isExpr, -⟩, later⟩
      exact ⟨⟨e, isExpr⟩, ih.mp ⟨q', later⟩⟩
    · rintro ⟨⟨e, isExpr⟩, later⟩
      obtain ⟨q', later⟩ := ih.mpr later
      exact ⟨q', _, ⟨e, isExpr, rfl⟩, later⟩

/-- What a query for the rows of a row has for its condition. -/
theorem findQuery_ofRow {ordering : Ordering} {limit : Option Nat} {offset : Nat} {q : Select}
    {stored : List Parameter}
    (declared : ∀ column ∈ row.names, g.metadata.hasColumn column = true)
    (plain : ∀ column ∈ row.names, isPath column = false)
    (found : g.findQuery (.ofRow row) ordering limit offset = .ok (q, stored)) :
    ∃ conditions params, List.Forall₂ (g.Reads params) row conditions ∧
      params.mapM Parameter.toStored = .ok stored ∧ (params.map (·.name)).Nodup ∧
      q.filter = if row.isEmpty then [] else [.all conditions] := by
  obtain ⟨conditions, params, compiled, reads, -⟩ := condition_ofRow declared plain
  obtain ⟨rows, base, condition, _, selected, isOrdered, compiled', isStored, built⟩ :=
    findQuery_eq_ok.mp found
  obtain rfl := Except.ok.inj (compiled.symm.trans compiled')
  cases built
  refine ⟨conditions, params, reads, isStored, (mentions_of_compile compiled).2, ?_⟩
  have unfiltered : (paged limit offset base).filter = [] := by
    obtain ⟨joins, rfl⟩ := source_ok selected
    exact ((sameRows_ordered isOrdered).trans (sameRows_paged limit offset base)).filter.symm
  cases row with
  | nil => exact unfiltered
  | cons entry rest => exact congrArg (· ++ [.all conditions]) unfiltered

/-- A row of the table's columns can be found just if it can be deleted, apart from the order. -/
theorem exists_findQuery_iff {ordering : Ordering} {limit : Option Nat} {offset : Nat}
    (selects : ∃ q, g.selectQuery = .ok q)
    (declared : ∀ column ∈ row.names, g.metadata.hasColumn column = true)
    (plain : ∀ column ∈ row.names, isPath column = false) :
    (∃ found, g.findQuery (.ofRow row) ordering limit offset = .ok found) ↔
      (∀ term ∈ ordering, ∃ e, g.orderExpr term.1 = .ok e) ∧
        ∃ request, (g.delete row).Sends request := by
  obtain ⟨rows, selected⟩ := selects
  obtain ⟨conditions, params, compiled, reads, only⟩ := condition_ofRow declared plain
  constructor
  · rintro ⟨found, find⟩
    obtain ⟨rows', base, condition, stored, -, isOrdered, compiled', isStored, -⟩ :=
      findQuery_eq_ok.mp find
    obtain rfl := Except.ok.inj (compiled.symm.trans compiled')
    have each := (exists_stored_iff reads only).mp ⟨stored, isStored⟩
    obtain ⟨filters, isFilter⟩ := exists_columnParameters_iff.mpr each
    exact ⟨exists_ordered_iff.mp ⟨base, isOrdered⟩, _,
      changedBy_sends.mpr (deletion_eq_ok.mpr ⟨filters, isFilter, rfl⟩)⟩
  · rintro ⟨orderable, request, sent⟩
    obtain ⟨filters, isFilter, -⟩ := deletion_eq_ok.mp (changedBy_sends.mp sent)
    have each := exists_columnParameters_iff.mp ⟨filters, isFilter⟩
    obtain ⟨stored, isStored⟩ := (exists_stored_iff reads only).mpr each
    obtain ⟨base, isOrdered⟩ := exists_ordered_iff.mpr orderable
    exact ⟨_, findQuery_eq_ok.mpr
      ⟨rows, base, _, stored, selected, isOrdered, compiled, isStored, rfl⟩⟩

/-- A row of the table's columns can be deleted just if rows of that kind can be found. Both test its
columns alike, one after the other, and bind the same stored values under the same types, and so does
each filter of an update whose parameter is not one that the update assigns. -/
theorem filters_match_find (g : Gateway) (row : Row) (ordering : Ordering) (limit : Option Nat)
    (offset : Nat) (selects : ∃ q, g.selectQuery = .ok q)
    (declared : ∀ column ∈ row.names, g.metadata.hasColumn column = true)
    (plain : ∀ column ∈ row.names, isPath column = false) (distinct : row.names.Nodup) :
    ((∃ found, g.findQuery (.ofRow row) ordering limit offset = .ok found) ↔
      (∀ term ∈ ordering, ∃ e, g.orderExpr term.1 = .ok e) ∧
        ∃ request, (g.delete row).Sends request) ∧
    ∀ q params request, g.findQuery (.ofRow row) ordering limit offset = .ok (q, params) →
      (g.delete row).Sends request →
      ∃ tests : List (Expr × Expr),
        q.filter = (if row.isEmpty then [] else [.all (tests.map Prod.fst)]) ∧
        request.statement = .delete g.table (tests.map Prod.snd) ∧
        List.Forall₂ (g.SameTest params request.params) row tests ∧
        ∀ data change, (g.update row data).Sends change →
          (∃ values, change.statement = .update g.table values (tests.map Prod.snd)) ∧
          List.Forall₂ (fun entry test => filterName entry.1 ∉ data.names →
            g.SameTest params change.params entry test) row tests := by
  refine ⟨exists_findQuery_iff selects declared plain, ?_⟩
  intro q stored request found sent
  obtain ⟨conditions, params, reads, isStored, named, isFilter⟩ :=
    findQuery_ofRow declared plain found
  obtain ⟨filters, filtered, rfl⟩ := deletion_eq_ok.mp (changedBy_sends.mp sent)
  have stores := columnParameters_ok filtered
  have apart : (filters.map (·.name)).Nodup := by rwa [names_of_stores stores]
  obtain ⟨pairs, rfl, rfl, each⟩ := exists_pairs_of_forall₂ reads (forall₂_and_mem stores)
  have same := sameTests_of_pairs isStored named apart each
  refine ⟨pairs.map fun pair => (pair.1, filterCondition pair.2), ?_, ?_, ?_, ?_⟩
  · rw [isFilter, List.map_map]
    rfl
  · rw [List.map_map, List.map_map]
    rfl
  · exact (same []).imp fun _ _ alike => alike List.not_mem_nil
  · intro data change updated
    simp only [update_sends, updating, bind_eq_ok, pure_eq_ok] at updated
    obtain ⟨assigned, isAssigned, filters', filtered', rfl⟩ := updated
    obtain rfl := Except.ok.inj (filtered.symm.trans filtered')
    rw [← names_of_stores (columnParameters_ok isAssigned)]
    exact ⟨⟨_, by rw [List.map_map, List.map_map]; rfl⟩, same assigned⟩

/-- Novels are found and deleted by a list of identifiers and the lack of an author, which an update
may set. -/
theorem filters_match_find_novel :
    ∃ q params request change tests,
      novelGateway.findQuery (.ofRow [("id", .list [.int 1, .int 2]), ("author", .null)])
        [("id", .descending)] none 0 = .ok (q, params) ∧
      (novelGateway.delete [("id", .list [.int 1, .int 2]), ("author", .null)]).Sends request ∧
      (novelGateway.update [("id", .list [.int 1, .int 2]), ("author", .null)]
        [("author", .int 3)]).Sends change ∧
      q.filter = [.all (tests.map Prod.fst)] ∧
      request.statement = .delete "novel" (tests.map Prod.snd) ∧
      (∃ values, change.statement = .update "novel" values (tests.map Prod.snd)) ∧
      List.Forall₂ (novelGateway.SameTest params request.params)
        [("id", .list [.int 1, .int 2]), ("author", .null)] tests := by
  obtain ⟨findable, alike⟩ := filters_match_find novelGateway
    [("id", .list [.int 1, .int 2]), ("author", .null)] [("id", .descending)] none 0
    ⟨_, rfl⟩ (by decide) (by decide) (by decide)
  obtain ⟨⟨q, params⟩, found⟩ := findable.mpr
    ⟨List.forall_mem_singleton.mpr ⟨_, rfl⟩, _, changedBy_sends.mpr rfl⟩
  obtain ⟨-, request, sent⟩ := findable.mp ⟨_, found⟩
  obtain ⟨tests, filter, deleted, same, updates⟩ := alike q params request found sent
  have updated : (novelGateway.update [("id", .list [.int 1, .int 2]), ("author", .null)]
    [("author", .int 3)]).Sends _ := update_sends.mpr rfl
  obtain ⟨changed, -⟩ := updates _ _ updated
  exact ⟨q, params, request, _, tests, found, sent, updated, filter, deleted, changed, same⟩

/-- The rows that are found have the amount 1 or 2, but those that are updated have the amount 5, the
value that another column is assigned. -/
theorem filters_assigned_stock :
    ∃ q params change,
      stockGateway.findQuery (.ofRow [("amount", .list [.int 1, .int 2])]) [] none 0 =
        .ok (q, params) ∧
      (stockGateway.update [("amount", .list [.int 1, .int 2])]
        [("where_amount", .int 5)]).Sends change ∧
      q.filter = [.all [.inList false (.of "stock" "amount") (.placeholder "amount_0")]] ∧
      valuesOf params "amount_0" = [⟨.int 1, .integer⟩, ⟨.int 2, .integer⟩] ∧
      change.statement = .update "stock" [("where_amount", .placeholder "where_amount")]
        [.inList false (.bare "amount") (.placeholder "where_amount")] ∧
      valuesOf change.params "where_amount" = [⟨.int 5, .integer⟩] :=
  ⟨_, _, _, rfl, update_sends.mpr rfl, rfl, rfl, rfl, rfl⟩

end Gateway
end Relmap
