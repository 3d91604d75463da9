import Relmap.Gateway.Write
import Relmap.Proofs.Compile.Comparison
import Relmap.Proofs.Database.Sends
import Relmap.Proofs.Schema.RoundTrip
import Relmap.Proofs.Schema.Rows
import Relmap.Proofs.Sql.Binding
import Mathlib.Data.List.Nodup

/-!
# Values of an update

Assigned and filtering values of an update are bound as parameters of one list. Main statement,
`update_binds`: every column is assigned its stored value, and the placeholder of a filter takes the
first parameter of its name. This is the value of the filter unless a column of that name is
assigned (`filterTakes_own`), as `update_binds_assigned` shows that it can be.
-/

namespace Relmap

open Sql

/-! ## Stored values -/

namespace ColumnType

theorem isLeaf_storedLeaf {type : ColumnType} {v w : Value} (ok : type.storedLeaf v = .ok w) :
    w.isNull = false ∧ w.isList = false := by
  have isLeaf := isLeaf_of_isStored (isStored_storedLeaf ok)
  simpa [Value.isLeaf] using isLeaf

/-- A value is stored as null just if it is null. -/
theorem isNull_toStored {type : ColumnType} {v w : Value} (ok : type.toStored v = .ok w) :
    w.isNull = v.isNull := by
  cases Value.converts_of_ok ok with
  | null => rfl
  | list => rfl
  | leaf isLeaf stored =>
    rw [Value.isLeaf, Bool.and_eq_true, Bool.not_eq_true'] at isLeaf
    rw [isLeaf.1, (isLeaf_storedLeaf stored).1]

/-- A list is stored item by item. -/
theorem toStored_list {type : ColumnType} {items : List Value} {w : Value}
    (ok : type.toStored (.list items) = .ok w) :
    ∃ stored, w = .list stored ∧
      List.Forall₂ (fun item item' => type.toStored item = .ok item') items stored := by
  unfold toStored Value.convertLeaves at ok
  split at ok <;> cases ok
  rename_i stored converted
  refine ⟨stored, rfl, ?_⟩
  induction items generalizing stored with
  | nil =>
    cases converted
    exact .nil
  | cons item rest ih =>
    unfold Value.convertItems at converted
    split at converted
    · cases converted
    rename_i item' first
    split at converted <;> cases converted
    exact .cons first (ih _ (by assumption))

/-- A value is stored as a list just if it is one. -/
theorem isList_toStored {type : ColumnType} {v w : Value} (ok : type.toStored v = .ok w) :
    w.isList = v.isList := by
  cases Value.converts_of_ok ok with
  | null => rfl
  | list => rfl
  | leaf isLeaf stored =>
    rw [Value.isLeaf, Bool.and_eq_true, Bool.not_eq_true', Bool.not_eq_true'] at isLeaf
    rw [isLeaf.2, (isLeaf_storedLeaf stored).2]

end ColumnType

namespace Gateway

variable {g : Gateway}

/-- The parameter holds an entry of a row in stored form. -/
structure Stores (g : Gateway) (entry : String × Value) (p : Parameter) : Prop where
  name : p.name = entry.1
  type : g.columnType entry.1 = .ok p.type
  value : p.type.toStored entry.2 = .ok p.value
  isNull : p.value.isNull = entry.2.isNull

theorem columnParameters_ok {row : Row} {params : List Parameter}
    (ok : g.columnParameters row = .ok params) : List.Forall₂ g.Stores row params := by
  simp only [columnParameters, bind_eq_ok] at ok
  obtain ⟨stored, isStored, ok⟩ := ok
  have converted := Registry.convertRow_ok isStored
  have named := mapM_ok ok
  -- Values are converted in one pass and given their types in a second one over the result.
  clear isStored ok
  induction converted generalizing params with
  | nil =>
    cases named
    exact .nil
  | cons here _ ih =>
    cases named with
    | cons first later =>
      refine .cons ?_ (ih later)
      obtain ⟨same, type, typed, isStored⟩ := here
      obtain ⟨type', typed', rfl⟩ := map_eq_ok.mp first
      rw [same] at typed'
      obtain rfl : type = type' := Except.ok.inj (typed.symm.trans typed')
      exact ⟨same, typed, isStored, ColumnType.isNull_toStored isStored⟩

theorem names_of_stores {row : Row} {params : List Parameter}
    (stores : List.Forall₂ g.Stores row params) : params.map (·.name) = row.names := by
  induction stores with
  | nil => rfl
  | cons first _ ih =>
    simp only [Keyed.names, List.map_cons] at ih ⊢
    rw [ih, first.name]

/-! ## The statement of an update -/

theorem updating_ok {«where» data : Row} {request : Request}
    (ok : g.updating «where» data = .ok request) :
    ∃ assigned filters, List.Forall₂ g.Stores data assigned ∧
      List.Forall₂ g.Stores «where» filters ∧
      request = ⟨.update g.table (assignments assigned) (filters.map filterCondition),
        assigned ++ filterParameters filters⟩ := by
  simp only [updating, bind_eq_ok, pure_eq_ok] at ok
  obtain ⟨assigned, isAssigned, filters, isFilter, rfl⟩ := ok
  exact ⟨assigned, filters, columnParameters_ok isAssigned, columnParameters_ok isFilter, rfl⟩

theorem changedBy_sends {change : Except Error Request} {request : Request} :
    (changedBy change).Sends request ↔ change = .ok request := by
  cases change with
  | error e =>
    constructor
    · intro sends
      cases sends
    · intro ok
      cases ok
  | ok sent =>
    rw [Except.ok.injEq, eq_comm]
    exact Operation.sends_exec_finish

theorem update_sends {«where» data : Row} {request : Request} :
    (g.update «where» data).Sends request ↔ g.updating «where» data = .ok request :=
  changedBy_sends

theorem placeholders_assignments (params : List Parameter) :
    placeholdersAll ((assignments params).map (·.2)) = params.map (·.name) := by
  induction params with
  | nil => rfl
  | cons p rest ih =>
    simp only [assignments, List.map_cons, placeholdersAll, Expr.placeholders] at ih ⊢
    rw [ih]
    rfl

theorem placeholders_filters (filters : List Parameter) :
    placeholdersAll (filters.map filterCondition) = (filterParameters filters).map (·.name) := by
  induction filters with
  | nil => rfl
  | cons p rest ih =>
    obtain ⟨name, value, type⟩ := p
    simp only [List.map_cons, placeholdersAll, ih]
    cases value <;>
      simp [filterCondition, filterParameters, Expr.placeholders, Expr.bare, Expr.equal,
        Value.isNull]

/-- A filter can be written if the placeholder that it may have is bound. -/
theorem fault?_filterCondition {params : List Parameter} {p q : Parameter}
    (bound : p.value.isNull = false → parameter? params (filterName p.name) = some q)
    {node : Expr} (isNode : node ∈ (filterCondition p).nodes) : node.fault? params = none := by
  obtain ⟨name, value, type⟩ := p
  cases value with
  | null =>
    simp only [filterCondition, Expr.bare, Expr.nodes, List.mem_cons, List.not_mem_nil,
      or_false] at isNode
    rcases isNode with rfl | rfl <;> rfl
  | _ =>
    simp only [filterCondition, Expr.bare, Expr.equal, Expr.nodes, List.mem_cons, List.mem_append,
      List.not_mem_nil, or_false] at isNode
    rcases isNode with rfl | rfl | rfl
    · rfl
    · rfl
    · rw [fault?_placeholder, bound rfl]

/-! ## The parameters of an update -/

theorem filterName_inj {column other : String} (same : filterName column = filterName other) :
    column = other :=
  (String.append_right_inj _).mp same

/-- The parameter that the placeholder of a filter takes: an assigned one of the same name comes
first. -/
def filterTakes (assigned : List Parameter) (p : Parameter) : Parameter :=
  (parameter? assigned (filterName p.name)).getD p

/-- A filter takes its own value unless a column of the name of its placeholder is assigned. -/
theorem filterTakes_own {assigned : List Parameter} {p : Parameter}
    (apart : filterName p.name ∉ assigned.map (·.name)) : filterTakes assigned p = p := by
  rw [filterTakes, parameter?_eq_none.mpr apart, Option.getD_none]

section

variable {assigned filters : List Parameter}

theorem parameter?_assigned (distinct : (assigned.map (·.name)).Nodup) {p : Parameter}
    (member : p ∈ assigned) :
    parameter? (assigned ++ filterParameters filters) p.name = some p := by
  have found := parameter?_of_nodup distinct member
  unfold parameter? at found ⊢
  rw [List.find?_append, found, Option.some_or]

theorem nodup_filterParameters (distinct : (filters.map (·.name)).Nodup) :
    ((filterParameters filters).map (·.name)).Nodup := by
  have kept := distinct.sublist ((List.filter_sublist (p := fun p => !p.value.isNull)).map _)
  have renamed := List.Nodup.map (f := filterName) (fun _ _ => filterName_inj) kept
  rw [List.map_map] at renamed
  rwa [filterParameters, List.map_map]

theorem parameter?_filter (distinct : (filters.map (·.name)).Nodup) {p : Parameter}
    (member : p ∈ filters) (notNull : p.value.isNull = false) :
    parameter? (assigned ++ filterParameters filters) (filterName p.name) =
      some ((parameter? assigned (filterName p.name)).getD { p with name := filterName p.name }) := by
  have isParameter : { p with name := filterName p.name } ∈ filterParameters filters :=
    List.mem_map_of_mem (List.mem_filter.mpr ⟨member, by rw [notNull]; rfl⟩)
  have own := parameter?_of_nodup (nodup_filterParameters distinct) isParameter
  unfold parameter? at own ⊢
  rw [List.find?_append, own]
  cases assigned.find? fun q => q.name == filterName p.name <;> rfl

theorem valuesOf_filter (distinct : (filters.map (·.name)).Nodup) {p : Parameter}
    (member : p ∈ filters) (notNull : p.value.isNull = false) :
    valuesOf (assigned ++ filterParameters filters) (filterName p.name) =
      (filterTakes assigned p).expansion := by
  rw [valuesOf_eq_expansion (parameter?_filter distinct member notNull), filterTakes]
  cases parameter? assigned (filterName p.name) <;> rfl

/-- Every node of the statement can be written. -/
theorem fault?_update (table : String) (columns : (assigned.map (·.name)).Nodup)
    (conditions : (filters.map (·.name)).Nodup) :
    ∀ node ∈ (Statement.update table (assignments assigned) (filters.map filterCondition)).nodes,
      node.fault? (assigned ++ filterParameters filters) = none := by
  intro node isNode
  rcases List.mem_append.mp isNode with isNode | isNode
  · obtain ⟨_, isValue, isNode⟩ := mem_nodesOfAll.mp isNode
    simp only [assignments, List.map_map, List.mem_map, Function.comp_apply] at isValue
    obtain ⟨p, member, rfl⟩ := isValue
    obtain rfl := List.mem_singleton.mp isNode
    rw [fault?_placeholder, parameter?_assigned columns member]
  · obtain ⟨_, isCondition, isNode⟩ := mem_nodesOfAll.mp isNode
    obtain ⟨p, member, rfl⟩ := List.mem_map.mp isCondition
    exact fault?_filterCondition (parameter?_filter conditions member) isNode

/-- What an update binds, in every flavor. -/
theorem render_update (table : String) (columns : (assigned.map (·.name)).Nodup)
    (conditions : (filters.map (·.name)).Nodup) (flavor : Flavor) :
    ∃ sql, (Statement.update table (assignments assigned)
        (filters.map filterCondition)).render flavor (assigned ++ filterParameters filters) =
      ⟨.ok sql, assigned.flatMap Parameter.expansion ++
        (filters.filter fun p => !p.value.isNull).flatMap fun p =>
          (filterTakes assigned p).expansion⟩ := by
  obtain ⟨sql, rendered⟩ :=
    Statement.render_of_faultless (fault?_update table columns conditions) flavor
  refine ⟨sql, ?_⟩
  rw [rendered, Statement.placeholders, placeholders_assignments, placeholders_filters,
    List.flatMap_append]
  congr 2
  · rw [List.flatMap_map]
    refine List.flatMap_congr fun p member => ?_
    exact valuesOf_eq_expansion (parameter?_assigned columns member)
  · rw [filterParameters, List.map_map, List.flatMap_map]
    refine List.flatMap_congr fun p member => ?_
    obtain ⟨isFilter, notNull⟩ := List.mem_filter.mp member
    exact valuesOf_filter conditions isFilter (by simpa using notNull)

end

/-- An update that is sent binds the stored values of its row, and then those that the filters
take: their own, unless the placeholder of a filter has the name of an assigned column. -/
theorem update_binds {«where» data : Row} {request : Request} (columns : data.names.Nodup)
    (conditions : «where».names.Nodup) (sent : (g.update «where» data).Sends request) :
    ∃ assigned filters, List.Forall₂ g.Stores data assigned ∧
      List.Forall₂ g.Stores «where» filters ∧
      request.statement =
        .update g.table (assignments assigned) (filters.map filterCondition) ∧
      (∀ p ∈ filters, filterName p.name ∉ data.names → filterTakes assigned p = p) ∧
      ∀ flavor, ∃ sql, request.statement.render flavor request.params =
        ⟨.ok sql, assigned.flatMap Parameter.expansion ++
          (filters.filter fun p => !p.value.isNull).flatMap fun p =>
            (filterTakes assigned p).expansion⟩ := by
  obtain ⟨assigned, filters, isAssigned, isFilter, rfl⟩ := updating_ok (update_sends.mp sent)
  rw [← names_of_stores isAssigned] at columns ⊢
  rw [← names_of_stores isFilter] at conditions
  exact ⟨assigned, filters, isAssigned, isFilter, rfl, fun p _ apart => filterTakes_own apart,
    render_update g.table columns conditions⟩

def stockTable : Metadata :=
  Metadata.ofColumns "stock" [("amount", .integer), ("where_amount", .integer)] ["amount"]

/-- Amounts in stock, with a column that is named like the filter of another one. -/
def stockGateway : Gateway :=
  ⟨⟨⟨[stockTable], by decide⟩, ⟨true, true⟩⟩, stockTable, "stock", rfl⟩

theorem update_binds_stock :
    ∃ request, (stockGateway.update [("amount", .list [.int 1, .int 2]), ("where_amount", .null)]
        [("amount", .int 5)]).Sends request ∧
      ∃ assigned filters, List.Forall₂ stockGateway.Stores [("amount", .int 5)] assigned ∧
        List.Forall₂ stockGateway.Stores
          [("amount", .list [.int 1, .int 2]), ("where_amount", .null)] filters ∧
        ∀ flavor, ∃ sql, request.statement.render flavor request.params =
          ⟨.ok sql, assigned.flatMap Parameter.expansion ++
            (filters.filter fun p => !p.value.isNull).flatMap fun p =>
              (filterTakes assigned p).expansion⟩ := by
  refine ⟨_, update_sends.mpr rfl, ?_⟩
  have sent : (stockGateway.update [("amount", .list [.int 1, .int 2]), ("where_amount", .null)]
    [("amount", .int 5)]).Sends _ := update_sends.mpr rfl
  obtain ⟨assigned, filters, isAssigned, isFilter, -, -, binds⟩ :=
    update_binds (by decide) (by decide) sent
  exact ⟨assigned, filters, isAssigned, isFilter, binds⟩

/-- The filter for the amount 1 binds 2, the value that another column is assigned. -/
theorem update_binds_assigned :
    ∃ request, (stockGateway.update [("amount", .int 1)] [("where_amount", .int 2)]).Sends request ∧
      request.statement = .update "stock" [("where_amount", .placeholder "where_amount")]
        [.equal (.bare "amount") (.placeholder "where_amount")] ∧
      stockGateway.Stores ("amount", .int 1) ⟨"amount", .int 1, .integer⟩ ∧
      ∀ flavor, (request.statement.render flavor request.params).values =
        [⟨.int 2, .integer⟩, ⟨.int 2, .integer⟩] := by
  refine ⟨_, update_sends.mpr rfl, rfl, ⟨rfl, rfl, rfl, rfl⟩, fun flavor => ?_⟩
  rw [Statement.values_render]
  rfl

end Gateway
end Relmap
