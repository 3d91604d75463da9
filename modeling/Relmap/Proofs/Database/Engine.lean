import Relmap.Proofs.Gateway.Outputs
import Mathlib.Logic.Function.Basic

/-!
# Databases that go by meaning

A database of rows that answers queries and changes its rows by the meaning of statements. What SQL
leaves open is left open: how values are compared, in which order rows are answered, and what is
written to the columns that an insertion leaves out. Aggregates are given no meaning.
-/

namespace Relmap

open Sql

/-- The rows of tables by the names of the tables. -/
abbrev Tables := String → List Row

namespace Operation

variable {α β σ : Type} {d : Driver σ} {op : Operation α} {state after : σ}

/-- What an operation ends with, and the state that it leaves. -/
def result (d : Driver σ) (op : Operation α) (state : σ) : Except Error α × σ :=
  ((run d op state).outcome, (run d op state).state)

theorem result_bind_of_ok {a : α} (ok : result d op state = (.ok a, after))
    (f : α → Operation β) : result d (op.bind f) state = result d (f a) after := by
  obtain ⟨outcome, left⟩ := Prod.mk.inj ok
  rw [result, run_bind, Run.andThen, outcome, left]
  rfl

theorem result_bind_of_error {fault : Error} (failed : result d op state = (.error fault, after))
    (f : α → Operation β) : result d (op.bind f) state = (.error fault, after) := by
  obtain ⟨outcome, left⟩ := Prod.mk.inj failed
  rw [result, run_bind, Run.andThen, outcome, left]

end Operation

/-- The page of what a query finds. -/
def Sql.Select.page {α : Type} (q : Select) (found : List α) : List α :=
  let rest := found.drop (q.offset.getD 0)
  match q.limit with
  | some n => rest.take n
  | none => rest

namespace Sql.Setting

variable (db : Setting)

/-- The row that is answered for what a query finds. -/
def answered (columns : List SelectItem) (names : Bindings) : Row :=
  Keyed.ofList (columns.map fun item => (item.name?.getD "", db.value names item.expr))

/-- The values of assignments by their columns. -/
def assigned (assignments : List (String × Expr)) (names : Bindings) : Row :=
  assignments.map fun entry => (entry.1, db.value names entry.2)

/-- All conditions hold for a row of a table. -/
def meets (filter : List Expr) (table : String) (row : Row) : Bool :=
  Truth.all (db.truths filter [(table, row)]) == .yes

variable {db}

/-- A bare column is that of the row that a change looks at. -/
theorem value_bare (table column : String) (row : Row) :
    db.value [(table, row)] (.bare column) = row.read column := by
  rw [Expr.bare, value, Row.read, List.findSome?_cons]
  cases row.get? column <;> rfl

theorem value_bound {name : String} {bound : BoundValue} (names : Bindings)
    (only : valuesOf db.params name = [bound]) :
    db.value names (.placeholder name) = bound.value := by
  rw [value, only]

end Sql.Setting

/-- A database that goes by meaning, and what SQL leaves open to it. -/
structure Engine where
  /-- How statements are written for it. -/
  flavor : Flavor
  comparison : Comparison
  equal_int : ∀ n, comparison.relation .eq (.int n) (.int n) = .yes
  /-- The order in which what a query finds is answered. -/
  arrange : Select → List Bindings → List Bindings
  arrange_perm : ∀ q found, (arrange q found).Perm found
  /-- What a new row of a table has in the columns that are not given. -/
  fill : String → List Row → Row → Row
  /-- The identifier that is reported for a new row. -/
  newId : String → List Row → Row → Int64

namespace Engine

variable (e : Engine)

def setting (tables : Tables) (params : List Parameter) : Setting :=
  ⟨tables, e.comparison, params⟩

/-- The rows that a query is answered with. -/
def answers (tables : Tables) (params : List Parameter) (q : Select) : List Row :=
  let db := e.setting tables params
  (q.page (e.arrange q (db.selected q []))).map (db.answered q.columns)

/-- The row that an insertion of values makes. -/
def newRow (tables : Tables) (table : String) (values : Row) : Row :=
  (e.fill table (tables table) values).writeAll values

/-- Runs a statement. There is none without columns to insert or to update. -/
def perform (statement : Statement) (params : List Parameter) (tables : Tables) :
    Except Error Response × Tables :=
  let db := e.setting tables params
  match statement with
  | .query q => (.ok ⟨.values (e.answers tables params q), none⟩, tables)
  | .insert _ [] | .update _ [] _ => (.error (.driver "no columns" []), tables)
  | .insert table assignments =>
    let values := db.assigned assignments []
    (.ok ⟨.count 1, some (e.newId table (tables table) values)⟩,
      Function.update tables table (tables table ++ [e.newRow tables table values]))
  | .update table assignments filter =>
    (.ok ⟨.count ((tables table).countP (db.meets filter table)), none⟩,
      Function.update tables table ((tables table).map fun row =>
        if db.meets filter table row then row.writeAll (db.assigned assignments [(table, row)])
        else row))
  | .delete table filter =>
    (.ok ⟨.count ((tables table).countP (db.meets filter table)), none⟩,
      Function.update tables table ((tables table).filter fun row => !db.meets filter table row))

/-- Runs a request whose statement can be written. -/
def exec (request : Request) (tables : Tables) : Except Error Response × Tables :=
  match (request.statement.render e.flavor request.params).outcome with
  | .error fault => (.error fault, tables)
  | .ok _ => e.perform request.statement request.params tables

/-- The database as a driver that reports identifiers. -/
def driver : Driver Tables := ⟨"engine", ⟨true, true⟩, e.exec⟩

variable {e}

/-- A row has the values of another one, as the database compares them. -/
def selects (e : Engine) (given row : Row) : Bool :=
  given.all fun entry => e.comparison.relation .eq (row.read entry.1) entry.2 == .yes

theorem selects_iff {given row : Row} : e.selects given row = true ↔
    ∀ entry ∈ given, e.comparison.relation .eq (row.read entry.1) entry.2 = .yes := by
  simp [selects]

variable {tables : Tables} {params : List Parameter}

theorem exec_of_ordered {request : Request} (ordered : request.Ordered) (tables : Tables) :
    e.exec request tables = e.perform request.statement request.params tables := by
  obtain ⟨sql, written⟩ := ordered.outcome e.flavor
  rw [exec, written]

/-! ## Answers -/

theorem mem_answers {q : Select} {answer : Row} (member : answer ∈ e.answers tables params q) :
    ∃ names ∈ (e.setting tables params).selected q [],
      answer = (e.setting tables params).answered q.columns names := by
  obtain ⟨names, paged, rfl⟩ := List.mem_map.mp member
  refine ⟨names, (e.arrange_perm q _).mem_iff.mp ?_, rfl⟩
  unfold Select.page at paged
  split at paged
  · exact List.mem_of_mem_drop (List.mem_of_mem_take paged)
  · exact List.mem_of_mem_drop paged

/-- The first row is answered unless there is none. -/
theorem answers_eq_nil {q : Select} (limit : q.limit = some 1) (offset : q.offset = none) :
    e.answers tables params q = [] ↔ (e.setting tables params).selected q [] = [] := by
  have arranged := (e.arrange_perm q ((e.setting tables params).selected q [])).length_eq
  rw [answers, List.map_eq_nil_iff, Select.page, limit, offset]
  show List.take 1 (List.drop 0 _) = [] ↔ _
  rw [List.drop_zero, List.take_eq_nil_iff, or_iff_right Nat.one_ne_zero,
    ← List.length_eq_zero_iff, arranged, List.length_eq_zero_iff]

/-! ## Changes -/

theorem perform_insert (tables : Tables) (params : List Parameter) (table : String)
    {assignments : List (String × Expr)} (some : assignments ≠ []) :
    e.perform (.insert table assignments) params tables =
      let values := (e.setting tables params).assigned assignments []
      (.ok ⟨.count 1, .some (e.newId table (tables table) values)⟩,
        Function.update tables table (tables table ++ [e.newRow tables table values])) := by
  cases assignments with
  | nil => exact absurd rfl some
  | cons first rest => rfl

theorem perform_update (tables : Tables) (params : List Parameter) (table : String)
    {assignments : List (String × Expr)} (filter : List Expr) (some : assignments ≠ []) :
    e.perform (.update table assignments filter) params tables =
      let db := e.setting tables params
      (.ok ⟨.count ((tables table).countP (db.meets filter table)), none⟩,
        Function.update tables table ((tables table).map fun row =>
          if db.meets filter table row then row.writeAll (db.assigned assignments [(table, row)])
          else row)) := by
  cases assignments with
  | nil => exact absurd rfl some
  | cons first rest => rfl

end Engine
end Relmap
