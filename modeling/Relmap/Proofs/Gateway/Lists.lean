import Relmap.Proofs.Compile.Uses
import Relmap.Proofs.Gateway.Requests

/-!
# Lists in requests

A list that is bound where there is room for one value is written as several, and a list among the
items of another cannot be bound at all. Main statement, `listsInPlace_iff`: for which criteria and
which rows neither happens. Nothing refuses the others: `not_listsInPlace` has a list that a column is
to be greater than, one that is inserted and one inside a list.
-/

namespace Relmap

open Sql

/-! ## Stored lists -/

theorem Value.isNested_of_single {v : Value} (single : v.isList = false) : v.isNested = false := by
  cases v with
  | list items => cases single
  | _ => rfl

theorem Value.isNested_of_isNull {v : Value} (null : v.isNull = true) : v.isNested = false := by
  cases v with
  | null => rfl
  | _ => cases null

theorem ColumnType.isNested_toStored {type : ColumnType} {v w : Value}
    (ok : type.toStored v = .ok w) : w.isNested = v.isNested := by
  cases v with
  | list items =>
    obtain ⟨stored, rfl, each⟩ := toStored_list ok
    clear ok
    show stored.any Value.isList = items.any Value.isList
    induction each with
    | nil => rfl
    | cons first _ ih => rw [List.any_cons, List.any_cons, isList_toStored first, ih]
  | _ => exact Value.isNested_of_single (isList_toStored ok)

/-- Storing the values of parameters does not change which uses are in their places. -/
theorem Sql.Use.inPlace_stored {params stored : List Parameter} {use : Use}
    (ok : params.mapM Parameter.toStored = .ok stored) (distinct : (params.map (·.name)).Nodup) :
    use.InPlace stored ↔ use.InPlace params := by
  cases found : parameter? params use.name with
  | none =>
    have absent : parameter? stored use.name = none := by
      rw [parameter?_eq_none, Parameter.names_toStored ok]
      exact parameter?_eq_none.mp found
    exact iff_of_true (Use.inPlace_of_unbound absent) (Use.inPlace_of_unbound found)
  | some p =>
    have named : p.name = use.name := by simpa using List.find?_some found
    obtain ⟨value, converted, here⟩ := parameter?_stored ok distinct (List.mem_of_find?_eq_some found)
    rw [named] at here
    rw [Use.inPlace_iff here, Use.inPlace_iff found, ColumnType.isList_toStored converted,
      ColumnType.isNested_toStored converted]

namespace Gateway

variable {g : Gateway}

/-! ## Queries -/

/-- What is fetched for a plan keeps lists in their places just if the comparisons do. -/
theorem listsInPlace_fetch {plan : Except Error Plan} {c : Criteria} {r : Request}
    (planned : ∀ p, plan = .ok p → g.condition c = .ok p.condition ∧ p.base.Schematic)
    (sent : (g.fetch plan).Sends r) : r.ListsInPlace ↔ ∀ l ∈ c.leaves, l.KeepsLists := by
  obtain ⟨p, query, isPlan, queried, rfl⟩ := fetch_sends sent
  obtain ⟨compiled, schematic⟩ := planned p isPlan
  obtain ⟨stored, ok, rfl⟩ := map_eq_ok.mp queried
  have kept := listsInPlace_of_compile compiled p.base
  rw [schematic.uses_eq_nil, and_iff_right nofun] at kept
  rw [← kept]
  exact forall₂_congr fun use _ => Use.inPlace_stored ok (mentions_of_compile compiled).2

theorem listsInPlace_find {c : Criteria} {ordering : Ordering} {limit : Option Nat} {offset : Nat}
    {r : Request} (sent : (g.find c ordering limit offset).Sends r) :
    r.ListsInPlace ↔ ∀ l ∈ c.leaves, l.KeepsLists :=
  listsInPlace_fetch (fun _ planned => findPlan_ok planned) (Operation.sends_of_map sent)

theorem listsInPlace_count {c : Criteria} {r : Request} (sent : (g.count c).Sends r) :
    r.ListsInPlace ↔ ∀ l ∈ c.leaves, l.KeepsLists :=
  listsInPlace_fetch (fun _ planned => countPlan_ok planned) (Operation.sends_of_map sent)

theorem listsInPlace_findById {id : Value} {r : Request} (sent : (g.findById id).Sends r) :
    r.ListsInPlace ↔ id.isNested = false := by
  obtain ⟨identifier, -, sent⟩ := Operation.sends_of_lift sent
  rw [listsInPlace_find (Operation.sends_of_map sent)]
  show (∀ l ∈ [Leaf.mk identifier .eq id], l.KeepsLists) ↔ _
  rw [List.forall_mem_singleton]
  exact ⟨Leaf.KeepsLists.items, fun items => ⟨fun _ => rfl, items⟩⟩

/-! ## Written rows -/

theorem uses_assignments (params : List Parameter) :
    usesOfAll ((assignments params).map (·.2)) = params.map fun p => ⟨p.name, false⟩ := by
  rw [usesOfAll_eq, assignments, List.map_map, List.flatMap_map]
  exact List.map_eq_flatMap.symm

theorem uses_filters (filters : List Parameter) :
    usesOfAll (filters.map filterCondition) =
      (filters.filter fun p => !p.value.isNull).map fun p => ⟨filterName p.name, p.value.isList⟩ := by
  induction filters with
  | nil => rfl
  | cons p rest ih =>
    obtain ⟨name, value, type⟩ := p
    rw [List.map_cons, usesOfAll, ih]
    cases value <;> rfl

section

variable {row «where» : Row} {params assigned filters : List Parameter}

/-- Values are assigned in their places just if none of them is a list. -/
theorem inPlace_assignments (stores : List.Forall₂ g.Stores row assigned)
    (known : ∀ p ∈ assigned, parameter? params p.name = some p) :
    (∀ use ∈ usesOfAll ((assignments assigned).map (·.2)), use.InPlace params) ↔
      ∀ entry ∈ row, entry.2.isList = false := by
  rw [uses_assignments, List.forall_mem_map]
  refine (forall_iff_of_forall₂ (forall₂_and_mem stores) ?_).symm
  rintro entry p ⟨stored, -, isAssigned⟩
  rw [Use.inPlace_iff (known p isAssigned), ← ColumnType.isList_toStored stored.value]
  constructor
  · intro single
    exact ⟨fun isList => absurd isList (by rw [single]; exact Bool.false_ne_true),
      Value.isNested_of_single single⟩
  · rintro ⟨never, -⟩
    exact Bool.eq_false_iff.mpr fun isList => absurd (never isList) Bool.false_ne_true

/-- A filter takes its own value, or an assigned one that is no list. -/
theorem inPlace_filter (single : ∀ q ∈ assigned, q.value.isList = false)
    (distinct : (filters.map (·.name)).Nodup) {p : Parameter} (member : p ∈ filters)
    (notNull : p.value.isNull = false) :
    (⟨filterName p.name, p.value.isList⟩ : Use).InPlace (assigned ++ filterParameters filters) ↔
      (filterName p.name ∉ assigned.map (·.name) → p.value.isNested = false) := by
  rw [Use.inPlace_iff (parameter?_filter distinct member notNull), ← parameter?_eq_none]
  cases found : parameter? assigned (filterName p.name) with
  | none => exact ⟨fun ⟨_, items⟩ _ => items, fun items => ⟨id, items rfl⟩⟩
  | some q =>
    have notList := single q (List.mem_of_find?_eq_some found)
    refine iff_of_true ⟨fun isList => ?_, Value.isNested_of_single notList⟩ nofun
    rw [Option.getD_some, notList] at isList
    cases isList

/-- Values filter in their places just if no list among those that are taken has a list among its
items. -/
theorem inPlace_filters (stores : List.Forall₂ g.Stores «where» filters)
    (single : ∀ q ∈ assigned, q.value.isList = false) (distinct : «where».names.Nodup) :
    (∀ use ∈ usesOfAll (filters.map filterCondition),
        use.InPlace (assigned ++ filterParameters filters)) ↔
      ∀ entry ∈ «where», filterName entry.1 ∉ assigned.map (·.name) →
        entry.2.isNested = false := by
  rw [uses_filters, List.forall_mem_map]
  rw [← names_of_stores stores] at distinct
  simp only [List.mem_filter, and_imp]
  refine (forall_iff_of_forall₂ (forall₂_and_mem stores) ?_).symm
  rintro entry p ⟨stored, -, isFilter⟩
  rw [← stored.name, ← ColumnType.isNested_toStored stored.value]
  cases test : p.value.isNull with
  | false =>
    rw [inPlace_filter single distinct isFilter test]
    exact (imp_iff_right rfl).symm
  | true =>
    -- A test against null has no placeholder, and null is no list.
    exact iff_of_true (fun _ => Value.isNested_of_isNull test) nofun

end

theorem listsInPlace_insert {data : Row} {r : Request} (columns : data.names.Nodup)
    (sent : (g.insert data).Sends r) : r.ListsInPlace ↔ ∀ entry ∈ data, entry.2.isList = false := by
  obtain ⟨params, stores, rfl⟩ := insertion_ok (insert_sends sent)
  rw [← names_of_stores stores] at columns
  exact inPlace_assignments stores fun p => parameter?_of_nodup columns

theorem listsInPlace_update {«where» data : Row} {r : Request} (columns : data.names.Nodup)
    (conditions : «where».names.Nodup) (sent : (g.update «where» data).Sends r) :
    r.ListsInPlace ↔ (∀ entry ∈ data, entry.2.isList = false) ∧
      ∀ entry ∈ «where», filterName entry.1 ∉ data.names → entry.2.isNested = false := by
  obtain ⟨assigned, filters, stores, filtering, rfl⟩ := updating_ok (update_sends.mp sent)
  rw [← names_of_stores stores] at columns ⊢
  have known : ∀ p ∈ assigned, parameter? (assigned ++ filterParameters filters) p.name = some p :=
    fun p => parameter?_assigned columns
  refine List.forall_mem_append.trans ?_
  rw [inPlace_assignments stores known]
  refine and_congr_right fun single => inPlace_filters filtering ?_ conditions
  rw [← forall_iff_of_forall₂ stores fun entry p stored => ?_]
  · exact single
  · rw [ColumnType.isList_toStored stored.value]

theorem listsInPlace_delete {«where» : Row} {r : Request} (conditions : «where».names.Nodup)
    (sent : (g.delete «where»).Sends r) :
    r.ListsInPlace ↔ ∀ entry ∈ «where», entry.2.isNested = false := by
  obtain ⟨filters, filtering, rfl⟩ := deletion_ok (delete_sends sent)
  have unassigned : ∀ q ∈ ([] : List Parameter), q.value.isList = false := nofun
  refine (inPlace_filters filtering unassigned conditions).trans ?_
  exact forall₂_congr fun entry _ => imp_iff_right List.not_mem_nil

/-! ## All operations -/

/-- Lists are given for what takes lists only, without lists among their items. A filter of an update
that takes an assigned value instead of its own may have any. -/
def Call.KeepsLists : Call → Prop
  | .find c _ _ _ | .findOne c _ | .count c => ∀ l ∈ c.leaves, l.KeepsLists
  | .findById id => id.isNested = false
  | .findAll _ _ => True
  | .insert data => ∀ entry ∈ data, entry.2.isList = false
  | .update «where» data => (∀ entry ∈ data, entry.2.isList = false) ∧
    ∀ entry ∈ «where», filterName entry.1 ∉ data.names → entry.2.isNested = false
  | .delete «where» => ∀ entry ∈ «where», entry.2.isNested = false

instance (call : Call) : Decidable call.KeepsLists :=
  match call with
  | .find c _ _ _ | .findOne c _ | .count c =>
    inferInstanceAs (Decidable (∀ l ∈ c.leaves, l.KeepsLists))
  | .findById id => inferInstanceAs (Decidable (id.isNested = false))
  | .findAll _ _ => inferInstanceAs (Decidable True)
  | .insert data => inferInstanceAs (Decidable (∀ entry ∈ data, entry.2.isList = false))
  | .update «where» data => inferInstanceAs (Decidable ((∀ entry ∈ data, entry.2.isList = false) ∧
      ∀ entry ∈ «where», filterName entry.1 ∉ data.names → entry.2.isNested = false))
  | .delete «where» => inferInstanceAs (Decidable (∀ entry ∈ «where», entry.2.isNested = false))

theorem listsInPlace_of_sends {call : Call} {r : Request} (sent : call.Sends g r)
    (rows : ∀ row ∈ call.rows, row.names.Nodup) : r.ListsInPlace ↔ call.KeepsLists := by
  cases call with
  | find => exact listsInPlace_find sent
  | findOne => exact listsInPlace_find (Operation.sends_of_map sent)
  | findById => exact listsInPlace_findById sent
  | findAll => exact (listsInPlace_find sent).trans (iff_of_true nofun trivial)
  | count => exact listsInPlace_count sent
  | insert => exact listsInPlace_insert (rows _ List.mem_cons_self) sent
  | update =>
    exact listsInPlace_update (rows _ (List.mem_cons_of_mem _ List.mem_cons_self))
      (rows _ List.mem_cons_self) sent
  | delete => exact listsInPlace_delete (rows _ List.mem_cons_self) sent

/-- Compiled criteria bind lists for the list of an `IN` and item by item just if lists stand with
operators that take them, and what a gateway sends does just if its call keeps lists. Every other
placeholder is then written as one mark where positions are counted. -/
theorem listsInPlace_iff (registry : Registry) (table aliasName : String) (c : Criteria) (q : Select)
    (g : Gateway) (call : Call) :
    (∀ cond, compile registry table aliasName c = .ok cond →
      (Request.ListsInPlace ⟨.query (cond.applyTo q), cond.params⟩ ↔
        (∀ use ∈ q.uses, use.InPlace cond.params) ∧ ∀ l ∈ c.leaves, l.KeepsLists) ∧
      ∀ flavor sql, ((Statement.query (cond.applyTo q)).render flavor cond.params).outcome = .ok sql →
        Request.ListsInPlace ⟨.query (cond.applyTo q), cond.params⟩ →
        Request.MarksSingles ⟨.query (cond.applyTo q), cond.params⟩) ∧
    ∀ r, call.Sends g r → (∀ row ∈ call.rows, row.names.Nodup) →
      (r.ListsInPlace ↔ call.KeepsLists) ∧ (r.ListsInPlace → r.MarksSingles) := by
  constructor
  · intro cond compiled
    refine ⟨listsInPlace_of_compile compiled q, ?_⟩
    intro flavor sql rendered inPlace
    exact inPlace.marksSingles rendered
  · intro r sent rows
    obtain ⟨sql, rendered⟩ := (Call.ordered_of_sends sent).1.outcome .named
    refine ⟨listsInPlace_of_sends sent rows, ?_⟩
    intro inPlace
    exact inPlace.marksSingles rendered

theorem listsInPlace_iff_book :
    (∃ cond, compile bookRegistry "book" "b" unprintedBooks = .ok cond ∧
      Request.ListsInPlace ⟨.query (cond.applyTo (Select.empty.from "book" "b")), cond.params⟩ ∧
      Request.MarksSingles ⟨.query (cond.applyTo (Select.empty.from "book" "b")), cond.params⟩) ∧
    ∃ r, (Call.update [("amount", .list [.int 1, .int 2])] [("amount", .int 5)]).Sends
      stockGateway r ∧ r.ListsInPlace ∧ r.MarksSingles := by
  obtain ⟨compiled, sent⟩ := listsInPlace_iff bookRegistry "book" "b" unprintedBooks
    (Select.empty.from "book" "b") stockGateway
    (.update [("amount", .list [.int 1, .int 2])] [("amount", .int 5)])
  constructor
  · obtain ⟨kept, marked⟩ := compiled _ rfl
    have inPlace := kept.mpr ⟨nofun, by decide⟩
    exact ⟨_, rfl, inPlace, marked .named _ rfl inPlace⟩
  · obtain ⟨kept, marked⟩ := sent _ (update_sends.mpr rfl) (by decide)
    have inPlace := kept.mpr (by decide)
    exact ⟨_, update_sends.mpr rfl, inPlace, marked inPlace⟩

/-- A list that a column is to be greater than, one among the items of another, and one that is
inserted. -/
theorem not_listsInPlace :
    (∃ cond, compile bookRegistry "book" "b"
        (.expression (.comparison "pages" .gt (.list [.int 1, .int 2]))) = .ok cond ∧
      ¬Request.ListsInPlace ⟨.query (cond.applyTo (Select.empty.from "book" "b")), cond.params⟩ ∧
      ((Statement.query (cond.applyTo (Select.empty.from "book" "b"))).render .sqlite
        cond.params).outcome = .ok "SELECT * FROM book b WHERE b.pages > ?1, ?2;") ∧
    (∃ cond, compile bookRegistry "book" "b"
        (.expression (.comparison "pages" .isIn (.list [.int 1, .list [.int 2, .int 3]]))) =
          .ok cond ∧
      ¬Request.ListsInPlace ⟨.query (cond.applyTo (Select.empty.from "book" "b")), cond.params⟩) ∧
    ∃ r, (stockGateway.insert [("amount", .list [.int 1, .int 2])]).Sends r ∧ ¬r.ListsInPlace ∧
      (r.statement.render .sqlite r.params).outcome =
        .ok "INSERT INTO stock (amount) VALUES (?1, ?2);" := by
  have kept {c : Criteria} {cond : Condition}
      (compiled : compile bookRegistry "book" "b" c = .ok cond) (inPlace : Request.ListsInPlace
        ⟨.query (cond.applyTo (Select.empty.from "book" "b")), cond.params⟩) :
      ∀ l ∈ c.leaves, l.KeepsLists := ((listsInPlace_of_compile compiled _).mp inPlace).2
  have inserted {r : Request}
      (sent : (stockGateway.insert [("amount", .list [.int 1, .int 2])]).Sends r) :
      ¬r.ListsInPlace := by
    rw [listsInPlace_insert (by decide) sent]
    decide
  refine ⟨⟨_, rfl, ?_, rfl⟩, ⟨_, rfl, ?_⟩, _, .note .here, inserted (.note .here), rfl⟩
  · intro inPlace
    exact absurd (kept (c := .expression (.comparison "pages" .gt (.list [.int 1, .int 2]))) rfl
      inPlace) (by decide)
  · intro inPlace
    exact absurd (kept (c := .expression
      (.comparison "pages" .isIn (.list [.int 1, .list [.int 2, .int 3]]))) rfl inPlace) (by decide)

end Gateway
end Relmap
