import Relmap.Gateway.Read
import Relmap.Gateway.Write
import Relmap.Proofs.Compile.Legible
import Relmap.Proofs.Compile.Parameters
import Relmap.Proofs.Gateway.Scoped
import Relmap.Proofs.Gateway.Updating

/-!
# Requests of a gateway

What a gateway sends to a driver, whatever it is asked for. Main statement, `serializes_of_sends`:
every request can be written in every flavor, and binds the values of its parameters in their order
unless it is an update. What an update binds is the subject of `update_binds`.
-/

namespace Relmap

open Sql

/-! ## Requests with their parameters in order -/

/-- A request mentions just its parameters, in their order, and every node of it can be written. -/
structure Request.Ordered (r : Request) : Prop where
  placeholders : r.statement.placeholders = r.params.map (·.name)
  legible : ∀ node ∈ r.statement.nodes, node.isLegible = true

namespace Request.Ordered

variable {r : Request}

theorem fault?_eq_none (ordered : r.Ordered) {node : Expr} (isNode : node ∈ r.statement.nodes) :
    node.fault? r.params = none := by
  refine Expr.fault?_of_isLegible (ordered.legible node isNode) fun name isName => ?_
  have mentioned : name ∈ r.statement.placeholders := by
    rw [Statement.placeholders_eq]
    exact List.mem_filterMap.mpr ⟨node, isNode, isName⟩
  rw [ordered.placeholders, List.mem_map] at mentioned
  exact mentioned

theorem outcome (ordered : r.Ordered) (flavor : Flavor) :
    ∃ sql, (r.statement.render flavor r.params).outcome = .ok sql := by
  obtain ⟨sql, rendered⟩ :=
    Statement.render_of_faultless (fun _ isNode => ordered.fault?_eq_none isNode) flavor
  exact ⟨sql, by rw [rendered]⟩

theorem values (ordered : r.Ordered) (apart : (r.params.map (·.name)).Nodup) (flavor : Flavor) :
    (r.statement.render flavor r.params).values = r.params.flatMap Parameter.expansion := by
  rw [Statement.values_render, ordered.placeholders, List.flatMap_map]
  refine List.flatMap_congr fun p member => ?_
  exact valuesOf_eq_expansion (parameter?_of_nodup apart member)

end Request.Ordered

/-! ## Queries -/

namespace Sql.Select.Schematic

variable {q : Select}

theorem withLimit (schematic : q.Schematic) (limit : Option Nat) :
    (q.withLimit limit).Schematic :=
  schematic_iff.mpr (schematic_iff (q := q).mp schematic)

theorem withOffset (schematic : q.Schematic) (offset : Option Nat) :
    (q.withOffset offset).Schematic :=
  schematic_iff.mpr (schematic_iff (q := q).mp schematic)

theorem foldl_addJoinOnce {joins : List Join}
    (links : ∀ join ∈ joins, ∀ node ∈ join.on.nodes, node.isSchematic = true)
    (schematic : q.Schematic) : (joins.foldl addJoinOnce q).Schematic := by
  induction joins generalizing q with
  | nil => exact schematic
  | cons join rest ih =>
    obtain ⟨first, later⟩ := List.forall_mem_cons.mp links
    refine ih later ?_
    unfold addJoinOnce
    split
    · exact schematic
    · exact schematic.addJoin first

end Sql.Select.Schematic

/-- A schematic query with compiled criteria mentions what the criteria mention. -/
theorem Condition.ordered_applyTo {r : Registry} {table aliasName : String} {c : Criteria}
    {cond : Condition} {q : Select} {params : List Parameter}
    (compiled : compile r table aliasName c = .ok cond) (schematic : q.Schematic)
    (names : params.map (·.name) = cond.params.map (·.name)) :
    Request.Ordered ⟨.query (cond.applyTo q), params⟩ := by
  have joined := schematic.foldl_addJoinOnce (schematic_of_compile compiled)
  have mentioned := (mentions_of_compile compiled).1
  have legible := legible_of_compile compiled
  rw [← names] at mentioned
  unfold Condition.applyTo
  cases isExpr : cond.expr with
  | none =>
    rw [isExpr] at mentioned
    exact ⟨joined.placeholders_eq_nil.trans mentioned,
      fun node isNode => Expr.isLegible_of_isSchematic (joined node isNode)⟩
  | some e =>
    rw [isExpr] at mentioned
    refine ⟨(joined.placeholders_where e).trans mentioned, fun node isNode => ?_⟩
    rcases Select.mem_nodes_where.mp isNode with built | added
    · exact Expr.isLegible_of_isSchematic (joined node built)
    · exact legible e isExpr node added

theorem Parameter.toStored_eq_ok {p stored : Parameter} :
    p.toStored = .ok stored ↔
      ∃ value, p.type.toStored p.value = .ok value ∧ { p with value } = stored := by
  unfold Parameter.toStored
  cases p.type.toStored p.value <;> simp

theorem Parameter.names_toStored {params stored : List Parameter}
    (ok : params.mapM Parameter.toStored = .ok stored) :
    stored.map (·.name) = params.map (·.name) := by
  have converted := mapM_ok ok
  clear ok
  induction converted with
  | nil => rfl
  | cons first _ ih =>
    obtain ⟨value, -, rfl⟩ := Parameter.toStored_eq_ok.mp first
    rw [List.map_cons, List.map_cons, ih]

/-- A parameter is found among the stored ones with its own value. -/
theorem parameter?_stored {params stored : List Parameter}
    (ok : params.mapM Parameter.toStored = .ok stored) (distinct : (params.map (·.name)).Nodup)
    {p : Parameter} (member : p ∈ params) :
    ∃ value, p.type.toStored p.value = .ok value ∧
      parameter? stored p.name = some { p with value } := by
  obtain ⟨_, isStored, here⟩ := exists_right_of_forall₂ (mapM_ok ok) member
  obtain ⟨value, converted, rfl⟩ := Parameter.toStored_eq_ok.mp here
  rw [← Parameter.names_toStored ok] at distinct
  exact ⟨value, converted, parameter?_of_nodup distinct isStored⟩

namespace Gateway

variable {g : Gateway}

theorem schematic_joinSubclass {identifier : String} {q q' : Select} {child : Metadata}
    (schematic : q.Schematic) (ok : g.joinSubclass identifier q child = .ok q') :
    q'.Schematic := by
  obtain ⟨column, rfl⟩ := joinSubclass_ok ok
  unfold addJoinOnce
  split
  · exact schematic
  · exact schematic.addJoin (Expr.schematic_equal _ _ _ _)

theorem schematic_source {columns : List SelectItem} {q : Select}
    (items : ∀ item ∈ columns, ∀ node ∈ item.expr.nodes, node.isSchematic = true)
    (ok : g.source columns = .ok q) : q.Schematic := by
  have start : ({ Select.empty with columns }.from g.table g.aliasName).Schematic :=
    Select.schematic_iff.mpr ⟨items, nofun, nofun, nofun⟩
  unfold source at ok
  split at ok
  · obtain ⟨identifier, -, ok⟩ := bind_eq_ok.mp ok
    exact foldlM_keeps (fun _ _ _ _ before after => schematic_joinSubclass before after) start ok
  · cases ok
    exact start

theorem schematic_outputItems :
    ∀ item ∈ g.outputItems, ∀ node ∈ item.expr.nodes, node.isSchematic = true := by
  intro item isItem
  rcases List.mem_append.mp isItem with own | inherited
  · obtain ⟨column, -, rfl⟩ := List.mem_map.mp own
    exact Expr.schematic_of _ _
  · obtain ⟨subclass, -, isItem⟩ := List.mem_flatMap.mp inherited
    obtain ⟨column, -, rfl⟩ := List.mem_map.mp isItem
    exact Expr.schematic_of _ _

theorem schematic_orderExpr {column : String} {e : Expr} (ok : g.orderExpr column = .ok e) :
    ∀ node ∈ e.nodes, node.isSchematic = true := by
  unfold orderExpr at ok
  split at ok
  · cases ok
    exact Expr.schematic_of _ _
  · split at ok <;> cases ok
    exact Expr.schematic_of _ _

/-- Criteria that are planned have been compiled, and are added to a schematic query. -/
theorem findPlan_ok {c : Criteria} {ordering : Ordering} {limit : Option Nat} {offset : Nat}
    {plan : Plan} (ok : g.findPlan c ordering limit offset = .ok plan) :
    g.condition c = .ok plan.condition ∧ plan.base.Schematic := by
  simp only [findPlan, bind_eq_ok, pure_eq_ok] at ok
  obtain ⟨base, isBase, ordered, isOrdered, condition, compiled, rfl⟩ := ok
  have schematic : ordered.Schematic := by
    refine foldlM_keeps (fun term _ before after schematic ok => ?_)
      (schematic_source schematic_outputItems isBase) isOrdered
    obtain ⟨e, isExpr, rfl⟩ := map_eq_ok.mp ok
    exact schematic.orderBy (schematic_orderExpr isExpr) _
  refine ⟨compiled, ?_⟩
  split
  · exact (schematic.withLimit limit).withOffset _
  · exact schematic.withLimit limit

theorem countPlan_ok {c : Criteria} {plan : Plan} (ok : g.countPlan c = .ok plan) :
    g.condition c = .ok plan.condition ∧ plan.base.Schematic := by
  simp only [countPlan, bind_eq_ok, pure_eq_ok] at ok
  obtain ⟨identifier, -, base, isBase, condition, compiled, rfl⟩ := ok
  refine ⟨compiled, schematic_source (List.forall_mem_singleton.mpr fun node isNode => ?_) isBase⟩
  rcases List.mem_pair.mp isNode with rfl | rfl <;> rfl

/-- What is sent to fetch the rows of a plan. -/
theorem fetch_sends {plan : Except Error Plan} {r : Request} (sent : (g.fetch plan).Sends r) :
    ∃ p query, plan = .ok p ∧ p.query = .ok query ∧ r = ⟨.query query.1, query.2⟩ := by
  cases plan with
  | error e => cases sent
  | ok p =>
    -- The note that the criteria were compiled is followed by the query.
    cases sent with
    | note sent =>
      obtain ⟨query, queried, sent⟩ := Operation.sends_of_lift sent
      exact ⟨p, query, rfl, queried, Operation.sends_exec_finish.mp sent⟩

/-- What is fetched for a plan mentions its parameters in order, under different names. -/
theorem ordered_fetch {plan : Except Error Plan} {c : Criteria} {r : Request}
    (planned : ∀ p, plan = .ok p → g.condition c = .ok p.condition ∧ p.base.Schematic)
    (sent : (g.fetch plan).Sends r) : r.Ordered ∧ (r.params.map (·.name)).Nodup := by
  obtain ⟨p, query, isPlan, queried, rfl⟩ := fetch_sends sent
  obtain ⟨compiled, schematic⟩ := planned p isPlan
  obtain ⟨params, stored, rfl⟩ := map_eq_ok.mp queried
  have names := Parameter.names_toStored stored
  refine ⟨Condition.ordered_applyTo compiled schematic names, ?_⟩
  rw [names]
  exact (mentions_of_compile compiled).2

theorem ordered_find {c : Criteria} {ordering : Ordering} {limit : Option Nat} {offset : Nat}
    {r : Request} (sent : (g.find c ordering limit offset).Sends r) :
    r.Ordered ∧ (r.params.map (·.name)).Nodup :=
  ordered_fetch (fun _ planned => findPlan_ok planned) (Operation.sends_of_map sent)

theorem ordered_findOne {c : Criteria} {ordering : Ordering} {r : Request}
    (sent : (g.findOne c ordering).Sends r) : r.Ordered ∧ (r.params.map (·.name)).Nodup :=
  ordered_find (Operation.sends_of_map sent)

theorem ordered_findById {id : Value} {r : Request} (sent : (g.findById id).Sends r) :
    r.Ordered ∧ (r.params.map (·.name)).Nodup := by
  obtain ⟨identifier, -, sent⟩ := Operation.sends_of_lift sent
  exact ordered_findOne sent

theorem ordered_count {c : Criteria} {r : Request} (sent : (g.count c).Sends r) :
    r.Ordered ∧ (r.params.map (·.name)).Nodup :=
  ordered_fetch (fun _ planned => countPlan_ok planned) (Operation.sends_of_map sent)

/-! ## Written rows -/

theorem legible_assignments (params : List Parameter) :
    ∀ node ∈ nodesOfAll ((assignments params).map (·.2)), node.isLegible = true := by
  intro node isNode
  obtain ⟨_, isValue, isNode⟩ := mem_nodesOfAll.mp isNode
  simp only [assignments, List.map_map, List.mem_map, Function.comp_apply] at isValue
  obtain ⟨p, -, rfl⟩ := isValue
  obtain rfl := List.mem_singleton.mp isNode
  rfl

theorem legible_filters (filters : List Parameter) :
    ∀ node ∈ nodesOfAll (filters.map filterCondition), node.isLegible = true := by
  intro node isNode
  obtain ⟨_, isCondition, isNode⟩ := mem_nodesOfAll.mp isNode
  obtain ⟨⟨name, value, type⟩, -, rfl⟩ := List.mem_map.mp isCondition
  cases value with
  | null =>
    rcases List.mem_pair.mp isNode with rfl | rfl <;> rfl
  | _ =>
    simp only [filterCondition, Expr.bare, Expr.equal, Expr.nodes, List.mem_cons, List.mem_append,
      List.not_mem_nil, or_false] at isNode
    rcases isNode with rfl | rfl | rfl <;> rfl

theorem insertion_ok {data : Row} {request : Request} (ok : g.insertion data = .ok request) :
    ∃ params, List.Forall₂ g.Stores data params ∧
      request = ⟨.insert g.table (assignments params), params⟩ := by
  simp only [insertion, bind_eq_ok, pure_eq_ok] at ok
  obtain ⟨params, stored, rfl⟩ := ok
  exact ⟨params, columnParameters_ok stored, rfl⟩

theorem deletion_ok {«where» : Row} {request : Request} (ok : g.deletion «where» = .ok request) :
    ∃ filters, List.Forall₂ g.Stores «where» filters ∧
      request = ⟨.delete g.table (filters.map filterCondition), filterParameters filters⟩ := by
  simp only [deletion, bind_eq_ok, pure_eq_ok] at ok
  obtain ⟨filters, stored, rfl⟩ := ok
  exact ⟨filters, columnParameters_ok stored, rfl⟩

theorem insert_sends {data : Row} {r : Request} (sent : (g.insert data).Sends r) :
    g.insertion data = .ok r := by
  unfold insert at sent
  split at sent
  · cases built : g.insertion data with
    | error e =>
      rw [built] at sent
      cases sent
    | ok request =>
      rw [built] at sent
      rw [Operation.sends_exec_finish.mp sent]
  · cases sent

theorem ordered_insert {data : Row} {r : Request} (sent : (g.insert data).Sends r) :
    r.Ordered ∧ (data.names.Nodup → (r.params.map (·.name)).Nodup) := by
  obtain ⟨params, stores, rfl⟩ := insertion_ok (insert_sends sent)
  refine ⟨⟨placeholders_assignments params, legible_assignments params⟩, fun apart => ?_⟩
  rwa [names_of_stores stores]

theorem ordered_update {«where» data : Row} {r : Request}
    (sent : (g.update «where» data).Sends r) : r.Ordered := by
  obtain ⟨assigned, filters, -, -, rfl⟩ := updating_ok (update_sends.mp sent)
  refine ⟨?_, fun node isNode => ?_⟩
  · rw [Statement.placeholders, placeholders_assignments, placeholders_filters, List.map_append]
  · rcases List.mem_append.mp isNode with isAssigned | isFilter
    · exact legible_assignments assigned node isAssigned
    · exact legible_filters filters node isFilter

theorem delete_sends {«where» : Row} {r : Request} (sent : (g.delete «where»).Sends r) :
    g.deletion «where» = .ok r :=
  changedBy_sends.mp sent

theorem ordered_delete {«where» : Row} {r : Request} (sent : (g.delete «where»).Sends r) :
    r.Ordered ∧ («where».names.Nodup → (r.params.map (·.name)).Nodup) := by
  obtain ⟨filters, stores, rfl⟩ := deletion_ok (delete_sends sent)
  refine ⟨⟨placeholders_filters filters, legible_filters filters⟩, fun apart => ?_⟩
  rw [← names_of_stores stores] at apart
  exact nodup_filterParameters apart

/-! ## All operations -/

/-- What a gateway can be asked for. -/
inductive Call where
  | find (c : Criteria) (ordering : Ordering) (limit : Option Nat) (offset : Nat)
  | findOne (c : Criteria) (ordering : Ordering)
  | findById (id : Value)
  | findAll (limit : Option Nat) (offset : Nat)
  | count (c : Criteria)
  | insert (data : Row)
  | update («where» data : Row)
  | delete («where» : Row)

namespace Call

/-- The gateway sends the request for the call. -/
def Sends (g : Gateway) (call : Call) (r : Request) : Prop :=
  match call with
  | .find c ordering limit offset => (g.find c ordering limit offset).Sends r
  | .findOne c ordering => (g.findOne c ordering).Sends r
  | .findById id => (g.findById id).Sends r
  | .findAll limit offset => (g.findAll limit offset).Sends r
  | .count c => (g.count c).Sends r
  | .insert data => (g.insert data).Sends r
  | .update «where» data => (g.update «where» data).Sends r
  | .delete «where» => (g.delete «where»).Sends r

/-- The rows that are given with the call. -/
def rows : Call → List Row
  | .insert data => [data]
  | .update «where» data => [«where», data]
  | .delete «where» => [«where»]
  | _ => []

def isUpdate : Call → Bool
  | .update _ _ => true
  | _ => false

theorem ordered_of_sends {call : Call} {r : Request} (sent : call.Sends g r) :
    r.Ordered ∧ (call.isUpdate = false → (∀ row ∈ call.rows, row.names.Nodup) →
      (r.params.map (·.name)).Nodup) := by
  cases call with
  | find => exact (ordered_find sent).imp_right fun apart _ _ => apart
  | findOne => exact (ordered_findOne sent).imp_right fun apart _ _ => apart
  | findById => exact (ordered_findById sent).imp_right fun apart _ _ => apart
  | findAll => exact (ordered_find sent).imp_right fun apart _ _ => apart
  | count => exact (ordered_count sent).imp_right fun apart _ _ => apart
  | insert data =>
    refine (ordered_insert sent).imp_right fun apart _ rows => ?_
    exact apart (rows data (List.mem_singleton_self data))
  | update => exact ⟨ordered_update sent, nofun⟩
  | delete «where» =>
    refine (ordered_delete sent).imp_right fun apart _ rows => ?_
    exact apart (rows «where» (List.mem_singleton_self «where»))

end Call

/-- Every request that a gateway sends can be written in every flavor. If it is not an update, and
the rows are maps, it mentions each parameter once and binds their values in their order. -/
theorem serializes_of_sends {call : Call} {r : Request} (sent : call.Sends g r) :
    (∀ flavor, ∃ sql, (r.statement.render flavor r.params).outcome = .ok sql) ∧
      (call.isUpdate = false → (∀ row ∈ call.rows, row.names.Nodup) →
        r.statement.placeholders = r.params.map (·.name) ∧ (r.params.map (·.name)).Nodup ∧
          ∀ flavor, (r.statement.render flavor r.params).values =
            r.params.flatMap Parameter.expansion) := by
  obtain ⟨ordered, apart⟩ := Call.ordered_of_sends sent
  refine ⟨ordered.outcome, fun other rows => ⟨ordered.placeholders, apart other rows, ?_⟩⟩
  exact ordered.values (apart other rows)

/-- A sub-select with a list and, after it, a scalar in the outer query. -/
theorem serializes_of_sends_novel :
    ∃ r, (Call.find (.expression (.composite .and
          [.comparison "author.country.cities.size" .isIn (.list [.int 500, .int 600]),
            .comparison "id" .gt (.int 7)])) [("id", .descending)] (some 10) 0).Sends
        novelGateway r ∧
      r.statement.placeholders = ["size_0", "id_1"] ∧
      ∀ flavor, (∃ sql, (r.statement.render flavor r.params).outcome = .ok sql) ∧
        (r.statement.render flavor r.params).values =
          [⟨.int 500, .integer⟩, ⟨.int 600, .integer⟩, ⟨.int 7, .integer⟩] := by
  have sent : (Call.find (.expression (.composite .and
        [.comparison "author.country.cities.size" .isIn (.list [.int 500, .int 600]),
          .comparison "id" .gt (.int 7)])) [("id", .descending)] (some 10) 0).Sends
      novelGateway _ := .note (.note .here)
  obtain ⟨rendered, inOrder⟩ := serializes_of_sends sent
  obtain ⟨placeholders, -, values⟩ := inOrder rfl nofun
  exact ⟨_, sent, placeholders, fun flavor => ⟨rendered flavor, values flavor⟩⟩

end Gateway
end Relmap
