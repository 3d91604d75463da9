import Relmap.Proofs.Database.Engine
import Relmap.Proofs.Gateway.Filtering
import Relmap.Proofs.Schema.Integers

/-!
# Gateways on a database that goes by meaning

What the operations of a gateway end with and what they leave in the tables of an `Engine`, where
rows are addressed by integers: which rows are found, overwritten and added.
-/

namespace Relmap

open Sql Operation

namespace Gateway

variable {g : Gateway} {row stored : Row}

/-- The row has integers in columns that the table declares for integers. -/
def HoldsIntegers (g : Gateway) (row : Row) : Prop :=
  ∀ entry ∈ row, ∃ type n, g.metadata.columns.get? entry.1 = some type ∧
    type.isInteger = true ∧ entry.2 = .int n

theorem toStored_of_holdsIntegers (holds : g.HoldsIntegers row) : g.toStored row = .ok row := by
  refine mapM_self fun entry member => ?_
  obtain ⟨type, n, declared, integer, same⟩ := holds entry member
  obtain ⟨column, value⟩ := entry
  obtain rfl := same
  have typed := Registry.columnType_of_declared (r := g.registry) declared
  simp only [typed, bind_eq_ok, pure_eq_ok]
  exact ⟨type, rfl, .int n, ColumnType.toStored_int integer n, rfl⟩

/-! ## Rows that are found -/

theorem selectQuery_flat (flat : g.metadata.subclasses = []) :
    g.selectQuery =
      .ok ({ Select.empty with columns := g.outputItems }.from g.table g.aliasName) := by
  rw [selectQuery, source, Metadata.hasSubclasses, flat]
  rfl

/-- The query for the first row that has the integers of a row. -/
theorem exists_findQuery (flat : g.metadata.subclasses = []) (holds : g.HoldsIntegers row)
    (plain : ∀ column ∈ row.names, isPath column = false) (some : row ≠ []) :
    ∃ conditions params,
      g.findQuery (.ofRow row) [] (.some 1) 0 = .ok
        (⟨g.outputItems, .some ⟨g.table, g.aliasName⟩, [], [.all conditions], [], .some 1, none⟩,
          params) ∧
      List.Forall₂ (g.Reads params) row conditions ∧ (params.map (·.name)).Nodup := by
  have declared : ∀ column ∈ row.names, g.metadata.hasColumn column = true := by
    intro column named
    obtain ⟨entry, member, rfl⟩ := List.mem_map.mp named
    obtain ⟨type, _, declared, -⟩ := holds entry member
    exact Option.isSome_iff_exists.mpr ⟨type, declared⟩
  obtain ⟨conditions, params, compiled, reads, only⟩ := condition_ofRow declared plain
  have stored : params.mapM Parameter.toStored = .ok params := by
    refine mapM_self fun p member => ?_
    obtain ⟨entry, isEntry, typed, same⟩ := only p member
    obtain ⟨type, n, declared, integer, isInt⟩ := holds entry isEntry
    obtain rfl : type = p.type :=
      Except.ok.inj ((Registry.columnType_of_declared declared).symm.trans typed)
    obtain ⟨name, value, type⟩ := p
    obtain rfl : value = .int n := same.trans isInt
    exact Parameter.toStored_eq_ok.mpr ⟨.int n, ColumnType.toStored_int integer n, rfl⟩
  refine ⟨conditions, params, ?_, reads, (mentions_of_compile compiled).2⟩
  refine findQuery_eq_ok.mpr ⟨_, _, _, _, selectQuery_flat flat, rfl, compiled, stored, ?_⟩
  rw [if_neg (by simpa using some)]
  rfl

variable {e : Engine} {tables : Tables} {params : List Parameter}

/-- A row that is found has the integers of the row that it is asked for. -/
theorem truth_reads {conditions : List Expr} {found : Row} (holds : g.HoldsIntegers row)
    (reads : List.Forall₂ (g.Reads params) row conditions)
    (distinct : (params.map (·.name)).Nodup) :
    (e.setting tables params).truth (.all conditions) [(g.aliasName, found)] = .yes ↔
      e.selects row found = true := by
  have each : ∀ entry condition, (g.Reads params entry condition ∧ entry ∈ row ∧
      condition ∈ conditions) →
      (e.comparison.relation .eq (found.read entry.1) entry.2 = .yes ↔
        (e.setting tables params).truth condition [(g.aliasName, found)] = .yes) := by
    rintro ⟨column, value⟩ condition ⟨⟨n, type, -, rfl, bound⟩, member, -⟩
    obtain ⟨_, i, -, -, rfl⟩ := holds _ member
    rw [truth_condition (l := leafOf (column, .int i)) nofun
      (fun p isParameter => parameter?_of_nodup distinct (bound p isParameter)),
      Setting.value_of, Bindings.row_same]
    rfl
  rw [Engine.selects_iff, forall_iff_of_forall₂ (forall₂_and_mem reads) each]
  show Truth.all ((e.setting tables params).truths conditions _) = .yes ↔ _
  rw [Truth.all_eq_yes]
  simp only [Setting.mem_truths, forall_exists_index, and_imp, forall_apply_eq_imp_iff₂]

theorem selected_flat (items : List SelectItem) {table aliasName : String} {condition : Expr}
    {limit offset : Option Nat} :
    (e.setting tables params).selected
        ⟨items, some ⟨table, aliasName⟩, [], [condition], [], limit, offset⟩ [] =
      ((tables table).map fun row => [(aliasName, row)]).filter fun names =>
        (e.setting tables params).truth condition names == .yes := by
  have single : (e.setting tables params).joined [] = fun names => [names] := by
    funext names
    rw [Setting.joined]
  rw [Setting.selected, single, List.flatMap_singleton']
  show List.filter
    (fun names => Truth.all [(e.setting tables params).truth condition names] == .yes) _ = _
  simp only [Truth.all, List.foldr_cons, List.foldr_nil, Truth.and_yes]
  rfl

/-- What is stored in the columns of the table can be held by an application. -/
def Readable (g : Gateway) (row : Row) : Prop :=
  ∀ c ∈ g.metadata.columns, ∃ a, c.2.toApplication (row.read c.1) = .ok a

instance decidableReadable (g : Gateway) (row : Row) : Decidable (g.Readable row) :=
  inferInstanceAs (Decidable (∀ c ∈ g.metadata.columns, _))

theorem read_answered (e : Engine) (tables : Tables) (params : List Parameter)
    (flat : g.metadata.subclasses = []) (readable : g.Readable row) :
    ∃ a, g.toApplication ((e.setting tables params).answered g.outputItems [(g.aliasName, row)]) =
      .ok a := by
  refine exists_mapM_ok.mpr fun entry member => ?_
  have own : g.outputItems = g.metadata.columns.names.map fun column =>
      ⟨.of g.aliasName column, none⟩ := by
    rw [outputItems, subclasses, Registry.subclassesOf, flat]
    exact List.append_nil _
  obtain ⟨kept, -⟩ := List.mem_filter.mp member
  have output := Keyed.mem_of_mem_ofList kept
  rw [own, List.map_map] at output
  obtain ⟨column, declared, rfl⟩ := List.mem_map.mp output
  obtain ⟨type, found⟩ := Option.isSome_iff_exists.mp ((Keyed.has_iff_mem_names _ _).mpr declared)
  obtain ⟨a, isRead⟩ := readable _ (Keyed.mem_of_get? found)
  have value : (e.setting tables params).value [(g.aliasName, row)] (.of g.aliasName column) =
      row.read column := by
    rw [Setting.value_of, Bindings.row_same]
  exact ⟨(column, a), bind_eq_ok.mpr ⟨type, Registry.columnType_of_declared found,
    bind_eq_ok.mpr ⟨a, (congrArg type.toApplication value).trans isRead, rfl⟩⟩⟩

/-! ## Runs on a database -/

theorem result_find {c : Criteria} {ordering : Ordering} {limit : Option Nat} {offset : Nat}
    {q : Select} (found : g.findQuery c ordering limit offset = .ok (q, params))
    (tables : Tables) :
    result e.driver (g.find c ordering limit offset) tables =
      (g.toApplicationAll (e.answers tables params q), tables) := by
  obtain ⟨plan, planned, queried⟩ := bind_eq_ok.mp found
  have sends : g.find c ordering limit offset = .note (plan.condition.note g.table)
      (.note (requestNote ⟨.query q, params⟩) (.send ⟨.query q, params⟩ fun response =>
        (finish response.rows.read).bind fun rows => finish (g.toApplicationAll rows))) := by
    show ((g.fetch (g.findPlan c ordering limit offset)).bind fun rows =>
      finish (g.toApplicationAll rows)) = _
    rw [planned]
    show Operation.note _ (((finish plan.query).bind _).bind _) = _
    rw [queried]
    rfl
  have sent : (g.find c ordering limit offset).Sends ⟨.query q, params⟩ := by
    rw [sends]
    exact .note (.note .here)
  have ordered := (ordered_find sent).1
  have answered : e.driver.exec ⟨.query q, params⟩ tables =
    (.ok ⟨.values (e.answers tables params q), none⟩, tables) :=
      Engine.exec_of_ordered ordered tables
  rw [sends]
  simp only [result, run, answered]
  rfl

theorem assigned_assignments {db : Setting} {assigned : List Parameter}
    (bound : ∀ p ∈ assigned, parameter? db.params p.name = some p)
    (single : ∀ p ∈ assigned, p.value.isList = false) (names : Bindings) :
    db.assigned (assignments assigned) names = assigned.map Parameter.entry := by
  rw [Setting.assigned, assignments, List.map_map]
  refine List.map_congr_left fun p member => ?_
  exact congrArg (p.name, ·) (value_placeholder (bound p member) (single p member))

theorem single_of_stores {assigned : List Parameter} (stores : List.Forall₂ g.Stores row assigned)
    (single : ∀ entry ∈ row, entry.2.isList = false) : ∀ p ∈ assigned, p.value.isList = false := by
  intro p member
  obtain ⟨entry, isEntry, here⟩ := exists_left_of_forall₂ stores member
  rw [ColumnType.isList_toStored here.value, single entry isEntry]

theorem names_of_entries {assigned : List Parameter}
    (entries : assigned.map Parameter.entry = row) : assigned.map (·.name) = row.names := by
  rw [← entries, Keyed.names, List.map_map]
  rfl

theorem assignments_ne_nil {assigned : List Parameter} (stores : List.Forall₂ g.Stores row assigned)
    (some : row ≠ []) : assignments assigned ≠ [] := by
  cases stores with
  | nil => exact absurd rfl some
  | cons _ _ => exact List.cons_ne_nil _ _

/-- The filters of an update that assigns none of their parameters hold for the rows that have the
integers of a row. -/
theorem meets_filters (tables : Tables) {assigned filters : List Parameter}
    (holds : g.HoldsIntegers row) (entries : filters.map Parameter.entry = row)
    (distinct : row.names.Nodup)
    (free : ∀ column ∈ row.names, filterName column ∉ assigned.map (·.name)) (table : String)
    (found : Row) :
    (e.setting tables (assigned ++ filterParameters filters)).meets (filters.map filterCondition)
      table found = e.selects row found := by
  have apart : (filters.map (·.name)).Nodup := names_of_entries entries ▸ distinct
  have each : ∀ p ∈ filters, (e.setting tables (assigned ++ filterParameters filters)).truth
      (filterCondition p) [(table, found)] =
        e.comparison.relation .eq (found.read p.name) p.value := by
    intro p member
    have isEntry : p.entry ∈ row := entries ▸ List.mem_map_of_mem member
    have own : filterTakes assigned p = p :=
      filterTakes_own (free p.name (List.mem_map_of_mem (f := (·.1)) isEntry))
    obtain ⟨_, n, -, -, isInt⟩ := holds p.entry isEntry
    obtain ⟨name, value, type⟩ := p
    obtain rfl : value = .int n := isInt
    have taken : valuesOf (assigned ++ filterParameters filters) (filterName name) =
        [⟨.int n, type⟩] := by
      rw [show filterName name = filterName (Parameter.mk name (.int n) type).name from rfl,
        valuesOf_filter apart member rfl, own]
      rfl
    show e.comparison.relation .eq ((e.setting tables _).value _ (.bare name))
      ((e.setting tables _).value _ (.placeholder (filterName name))) = _
    rw [Setting.value_bare, Setting.value_bound _ taken]
  rw [Bool.eq_iff_iff, Setting.meets, beq_iff_eq, Truth.all_eq_yes, Engine.selects_iff, ← entries]
  simp only [Setting.mem_truths, List.mem_map, forall_exists_index, and_imp,
    forall_apply_eq_imp_iff₂]
  constructor
  · intro yes p member
    exact (each p member).symm.trans (yes p member)
  · intro yes p member
    exact (each p member).trans (yes p member)

/-- One request that the database runs, after which an operation ends with the response to it. -/
theorem result_exec {α : Type} {request : Request} (finish : Response → Except Error α)
    {response : Response} {after : Tables} (ordered : request.Ordered)
    (performed : e.perform request.statement request.params tables = (.ok response, after)) :
    result e.driver ((exec request).bind fun response => .finish (finish response)) tables =
      (finish response, after) := by
  have answered : e.driver.exec request tables = (.ok response, after) :=
    (Engine.exec_of_ordered ordered tables).trans performed
  simp only [result, exec, Operation.bind, run, answered]
  rfl

variable {data : Row}

/-- An update by integers overwrites the rows that have them. -/
theorem result_update (tables : Tables) (holds : g.HoldsIntegers row) (apart : row.names.Nodup)
    (distinct : data.names.Nodup) (some : data ≠ [])
    (single : ∀ entry ∈ data, entry.2.isList = false) (converts : g.toStored data = .ok stored)
    (free : ∀ column ∈ row.names, filterName column ∉ data.names) :
    ∃ n, result e.driver (g.update row data) tables =
      (.ok n, Function.update tables g.table ((tables g.table).map fun found =>
        if e.selects row found then found.writeAll stored else found)) := by
  obtain ⟨assigned, isAssigned, entries⟩ := exists_columnParameters converts
  obtain ⟨filters, isFilter, filterEntries⟩ :=
    exists_columnParameters (toStored_of_holdsIntegers holds)
  have stores := columnParameters_ok isAssigned
  have columns : assigned.map (·.name) = data.names := names_of_stores stores
  have built : g.updating row data = .ok ⟨.update g.table (assignments assigned)
      (filters.map filterCondition), assigned ++ filterParameters filters⟩ := by
    simp only [updating, isAssigned, isFilter, bind_eq_ok, pure_eq_ok]
    exact ⟨assigned, rfl, filters, rfl, rfl⟩
  have ordered := ordered_update (update_sends.mpr built)
  have values (names : Bindings) :
      (e.setting tables (assigned ++ filterParameters filters)).assigned (assignments assigned)
        names = stored := by
    have bound : ∀ p ∈ assigned,
        parameter? (assigned ++ filterParameters filters) p.name = .some p := fun p member =>
      parameter?_assigned (columns ▸ distinct) member
    rw [assigned_assignments bound (single_of_stores stores single), entries]
  have performed := Engine.perform_update (e := e) tables (assigned ++ filterParameters filters)
    g.table (filters.map filterCondition) (assignments_ne_nil stores some)
  have meets := meets_filters (e := e) tables holds filterEntries apart (columns ▸ free) g.table
  simp only [values, meets] at performed
  rw [update, built]
  exact ⟨_, result_exec (fun response => response.rows.changed) ordered performed⟩

/-- An insertion adds one row. -/
theorem result_insert (tables : Tables) (capable : g.database.capability.generatedIds = true)
    (distinct : row.names.Nodup) (some : row ≠ [])
    (single : ∀ entry ∈ row, entry.2.isList = false) (converts : g.toStored row = .ok stored) :
    ∃ id, result e.driver (g.insert row) tables =
      (.ok id, Function.update tables g.table
        (tables g.table ++ [e.newRow tables g.table stored])) := by
  obtain ⟨assigned, isAssigned, entries⟩ := exists_columnParameters converts
  have stores := columnParameters_ok isAssigned
  have columns : assigned.map (·.name) = row.names := names_of_stores stores
  have built : g.insertion row = .ok ⟨.insert g.table (assignments assigned), assigned⟩ :=
    bind_eq_ok.mpr ⟨assigned, isAssigned, rfl⟩
  have sends : g.insert row = (exec ⟨.insert g.table (assignments assigned), assigned⟩).bind
      fun response => .finish (generatedId response) := by
    rw [insert, if_pos capable, built]
    rfl
  have sent : (g.insert row).Sends ⟨.insert g.table (assignments assigned), assigned⟩ := by
    rw [sends]
    exact sends_exec_finish.mpr rfl
  have ordered := (ordered_insert sent).1
  have values : (e.setting tables assigned).assigned (assignments assigned) [] = stored := by
    have bound : ∀ p ∈ assigned, parameter? assigned p.name = .some p := fun p member =>
      parameter?_of_nodup (columns ▸ distinct) member
    rw [assigned_assignments bound (single_of_stores stores single), entries]
  have performed :=
    Engine.perform_insert (e := e) tables assigned g.table (assignments_ne_nil stores some)
  simp only [values] at performed
  rw [sends]
  exact ⟨_, result_exec generatedId ordered performed⟩

end Gateway
end Relmap
