import Relmap.Compile.Condition
import Relmap.Proofs.Compile.Path

/-!
# Walks that succeed

What a walk yields, taken apart along the criteria, and an induction on it: what holds of the
conditions of single comparisons, and goes over to trees and lists of them, holds of criteria.
-/

namespace Relmap

open Sql

theorem Walked.map_eq_ok {α β : Type} {f : α → β} {r : Walked α} {b : β} {w : Walk}
    (yields : r.map f = (.ok b, w)) : ∃ a, r = (.ok a, w) ∧ f a = b := by
  obtain ⟨outcome, walk⟩ := r
  cases outcome with
  | error e => simp [Walked.map, Except.map] at yields
  | ok a => simpa [Walked.map, Except.map, and_comm] using yields

/-- Conditions that are yielded one after the other, with the walk between them. -/
theorem Walked.cons_eq_ok {r : Walked Expr} {rest : Walk → Walked (List Expr)}
    {conditions : List Expr} {w' : Walk} :
    (match r with
      | (.error e, w) => (.error e, w)
      | (.ok condition, w) => (rest w).map (condition :: ·)) = (.ok conditions, w') →
    ∃ condition w others, r = (.ok condition, w) ∧ rest w = (.ok others, w') ∧
      condition :: others = conditions := by
  intro yields
  obtain ⟨_ | condition, w⟩ := r
  · cases yields
  · obtain ⟨others, later, rfl⟩ := Walked.map_eq_ok yields
    exact ⟨condition, w, others, rfl, later, rfl⟩

theorem operandsOf_ne_nil {s : Scope} {e : Expression} {rest : List Expression} {w w' : Walk}
    {conditions : List Expr} (walked : Walk.operandsOf s (e :: rest) w = (.ok conditions, w')) :
    conditions ≠ [] := by
  rw [Walk.operandsOf] at walked
  obtain ⟨condition, _, others, -, -, rfl⟩ := Walked.cons_eq_ok walked
  exact List.cons_ne_nil condition others

theorem entries_ne_nil {s : Scope} {entry : String × Criterion} {rest : Keyed Criterion}
    {w w' : Walk} {conditions : List Expr}
    (walked : Walk.entries s (entry :: rest) w = (.ok conditions, w')) : conditions ≠ [] := by
  rw [Walk.entries] at walked
  obtain ⟨condition, _, others, -, -, rfl⟩ := Walked.cons_eq_ok walked
  exact List.cons_ne_nil condition others

/-- A comparison of a reached column leaves the query of the walk as it is. -/
theorem comparison_plain_ok {s : Scope} {field : String} {op : Operator} {value : Value}
    {w w' : Walk} {condition : Expr} (plain : ¬isPath field = true)
    (walked : w.comparison s field op value = (.ok condition, w')) :
    ∃ c, s.compareReached w.params.length field op value = .ok c ∧ condition = c.condition ∧
      w' = ⟨w.query, w.params ++ c.parameter.toList⟩ := by
  rw [Walk.comparison, if_neg plain] at walked
  cases compared : s.compareReached w.params.length field op value with
  | error e =>
    rw [compared] at walked
    cases walked
  | ok c =>
    rw [compared] at walked
    cases walked
    exact ⟨c, rfl, rfl, rfl⟩

/-- A comparison at the end of a path has its condition closed over the steps, and its joins added
to the query of the walk. -/
theorem comparison_path_ok {s : Scope} {field : String} {op : Operator} {value : Value}
    {w w' : Walk} {closed : Expr} (path : isPath field = true)
    (walked : w.comparison s field op value = (.ok closed, w')) :
    ∃ p inner, s.resolvePath field = .ok p ∧
      compareColumn (.of p.table.table p.field) p.field w.params.length op value p.type
        = .ok inner ∧
      closePath p.steps inner.condition = .ok closed ∧
      w' = ⟨joinOuter s.aliasName p.steps w.query, w.params ++ inner.parameter.toList⟩ := by
  rw [Walk.comparison, if_pos path] at walked
  cases resolved : s.resolvePath field with
  | error e =>
    rw [resolved] at walked
    cases walked
  | ok p =>
    rw [resolved] at walked
    cases compared : p.compare w.params.length op value with
    | error e =>
      simp only [compared, Walk.take] at walked
      cases walked
    | ok c =>
      obtain ⟨inner, closed', ok, isClosed, rfl⟩ := ResolvedPath.compare_ok compared
      simp only [compared, Walk.take] at walked
      cases walked
      exact ⟨p, inner, rfl, ok, isClosed, rfl⟩

/-- Criteria that compile have been walked from the start. -/
theorem compile_ok {r : Registry} {table aliasName : String} {c : Criteria} {cond : Condition}
    (compiled : compile r table aliasName c = .ok cond) :
    ∃ m w, r.forTable table = .ok m ∧
      Walk.criteria ⟨r, m, aliasName⟩ c .start = (.ok cond.expr, w) ∧ cond.params = w.params ∧
      cond.joins = w.query.joins := by
  simp only [compile, Registry.scope, bind_eq_ok] at compiled
  obtain ⟨scope, isScope, compiled⟩ := compiled
  cases registered : r.forTable table with
  | error e => simp [registered, Except.map] at isScope
  | ok m =>
    obtain rfl : (⟨r, m, aliasName⟩ : Scope) = scope := by
      simpa [registered, Except.map] using isScope
    rcases walked : Walk.criteria ⟨r, m, aliasName⟩ c .start with ⟨_ | expr, w⟩
    · rw [walked] at compiled
      cases compiled
    · rw [walked] at compiled
      cases compiled
      exact ⟨m, w, rfl, walked, rfl, rfl⟩

/-- Statements about comparisons, the condition or the conditions that they are compiled to, and the
walks before and after that, which go over from the parts of a condition to the whole. -/
structure LeafInduction (holds : List Leaf → Walk → Walk → Expr → Prop)
    (holdEach : List Leaf → Walk → Walk → List Expr → Prop) : Prop where
  nil : ∀ w, holdEach [] w w []
  cons : ∀ {leaves more : List Leaf} {w w' w'' : Walk} {condition : Expr} {conditions : List Expr},
    holds leaves w w' condition → holdEach more w' w'' conditions →
      holdEach (leaves ++ more) w w'' (condition :: conditions)
  compound : ∀ {leaves : List Leaf} {w w' : Walk} {conditions : List Expr} (connective : Connective),
    conditions ≠ [] → holdEach leaves w w' conditions →
      holds leaves w w' (.compound connective conditions)
  not : ∀ {leaves : List Leaf} {w w' : Walk} {condition : Expr},
    holds leaves w w' condition → holds leaves w w' (.not condition)

/-- The statement holds of the condition of a comparison. -/
def Leaf.Yields (s : Scope) (holds : Walk → Walk → Expr → Prop) (l : Leaf) : Prop :=
  ∀ {w w' : Walk} {condition : Expr},
    w.comparison s l.field l.op l.value = (.ok condition, w') → holds w w' condition

namespace LeafInduction

variable {s : Scope} {holds : List Leaf → Walk → Walk → Expr → Prop}
  {holdEach : List Leaf → Walk → Walk → List Expr → Prop}

mutual

theorem expression (ind : LeafInduction holds holdEach) : ∀ (e : Expression) {w w' : Walk}
    {condition : Expr}, (∀ l ∈ e.leaves, l.Yields s (holds [l])) →
      Walk.expression s e w = (.ok condition, w') → holds e.leaves w w' condition
  | .comparison field op value, w, w', condition, leaves, walked =>
    leaves ⟨field, op, value⟩ (by simp [Expression.leaves]) walked
  | .composite .and [], w, w', condition, leaves, walked
  | .composite .or [], w, w', condition, leaves, walked
  | .composite .not [], w, w', condition, leaves, walked
  | .composite .not (_ :: _ :: _), w, w', condition, leaves, walked => by
    simp [Walk.expression] at walked
  | .composite .and (e :: rest), w, w', condition, leaves, walked
  | .composite .or (e :: rest), w, w', condition, leaves, walked => by
    simp only [Walk.expression] at walked
    obtain ⟨conditions, operands, rfl⟩ := Walked.map_eq_ok walked
    exact ind.compound _ (operandsOf_ne_nil operands) (ind.operandsOf (e :: rest) leaves operands)
  | .composite .not [e], w, w', condition, leaves, walked => by
    rw [Walk.expression] at walked
    obtain ⟨inner, operand, rfl⟩ := Walked.map_eq_ok walked
    simp only [Expression.leaves, leavesOfAll, List.append_nil] at leaves ⊢
    exact ind.not (ind.expression e leaves operand)

theorem operandsOf (ind : LeafInduction holds holdEach) : ∀ (operands : List Expression)
    {w w' : Walk} {conditions : List Expr}, (∀ l ∈ leavesOfAll operands, l.Yields s (holds [l])) →
      Walk.operandsOf s operands w = (.ok conditions, w') →
        holdEach (leavesOfAll operands) w w' conditions
  | [], w, w', conditions, leaves, walked => by
    cases walked
    exact ind.nil w
  | e :: rest, w, w', conditions, leaves, walked => by
    rw [Walk.operandsOf] at walked
    obtain ⟨condition, between, others, first, later, rfl⟩ := Walked.cons_eq_ok walked
    rw [leavesOfAll] at leaves ⊢
    exact ind.cons
      (ind.expression e (fun l member => leaves l (List.mem_append_left _ member)) first)
      (ind.operandsOf rest (fun l member => leaves l (List.mem_append_right _ member)) later)

end

theorem criterion (ind : LeafInduction holds holdEach) {field : String} {c : Criterion}
    {w w' : Walk} {condition : Expr} (leaves : ∀ l ∈ c.leaves field, l.Yields s (holds [l]))
    (walked : w.criterion s field c = (.ok condition, w')) :
    holds (c.leaves field) w w' condition := by
  cases c with
  | value value => exact leaves ⟨field, .eq, value⟩ (List.mem_singleton.mpr rfl) walked
  | expression e => exact ind.expression e leaves walked

theorem entries (ind : LeafInduction holds holdEach) {fields : Keyed Criterion}
    {w w' : Walk} {conditions : List Expr}
    (leaves : ∀ l ∈ leavesOfEntries fields, l.Yields s (holds [l]))
    (walked : Walk.entries s fields w = (.ok conditions, w')) :
    holdEach (leavesOfEntries fields) w w' conditions := by
  induction fields generalizing w conditions with
  | nil =>
    cases walked
    exact ind.nil _
  | cons entry rest ih =>
    rw [Walk.entries] at walked
    obtain ⟨condition, between, others, first, later, rfl⟩ := Walked.cons_eq_ok walked
    rw [leavesOfEntries, List.flatMap_cons] at leaves ⊢
    exact ind.cons
      (ind.criterion (fun l member => leaves l (List.mem_append_left _ member)) first)
      (ih (fun l member => leaves l (List.mem_append_right _ member)) later)

/-- The condition of criteria, unless they are a map without entries. -/
theorem criteria (ind : LeafInduction holds holdEach) {c : Criteria} {w w' : Walk}
    {condition : Option Expr} (leaves : ∀ l ∈ c.leaves, l.Yields s (holds [l]))
    (walked : Walk.criteria s c w = (.ok condition, w')) :
    (condition = none ∧ w' = w ∧ c.leaves = []) ∨
      ∃ e, condition = some e ∧ holds c.leaves w w' e := by
  match c with
  | .expression e =>
    obtain ⟨expr, operand, rfl⟩ := Walked.map_eq_ok walked
    exact .inr ⟨expr, rfl, ind.expression e leaves operand⟩
  | .fields [] =>
    cases walked
    exact .inl ⟨rfl, rfl, rfl⟩
  | .fields (entry :: rest) =>
    obtain ⟨conditions, each, rfl⟩ := Walked.map_eq_ok walked
    exact .inr ⟨_, rfl, ind.compound _ (entries_ne_nil each) (ind.entries leaves each)⟩

end LeafInduction

/-- Statements about a condition, or about several, and the walks before and after them, that go
over from the parts of a condition to the whole. -/
structure WalkInduction (holds : Walk → Walk → Expr → Prop)
    (holdEach : Walk → Walk → List Expr → Prop) : Prop where
  nil : ∀ w, holdEach w w []
  cons : ∀ {w w' w'' : Walk} {condition : Expr} {conditions : List Expr},
    holds w w' condition → holdEach w' w'' conditions → holdEach w w'' (condition :: conditions)
  compound : ∀ {w w' : Walk} {conditions : List Expr} (connective : Connective),
    conditions ≠ [] → holdEach w w' conditions → holds w w' (.compound connective conditions)
  not : ∀ {w w' : Walk} {condition : Expr}, holds w w' condition → holds w w' (.not condition)

/-- The condition of criteria, unless they are a map without entries. -/
theorem WalkInduction.criteria {s : Scope} {holds : Walk → Walk → Expr → Prop}
    {holdEach : Walk → Walk → List Expr → Prop} (ind : WalkInduction holds holdEach) {c : Criteria}
    {w w' : Walk} {condition : Option Expr} (leaves : ∀ l ∈ c.leaves, l.Yields s holds)
    (walked : Walk.criteria s c w = (.ok condition, w')) :
    (condition = none ∧ w' = w) ∨ ∃ e, condition = some e ∧ holds w w' e := by
  have leafwise : LeafInduction (fun _ => holds) fun _ => holdEach :=
    ⟨ind.nil, ind.cons, ind.compound, ind.not⟩
  exact (leafwise.criteria leaves walked).imp_left fun ⟨absent, same, _⟩ => ⟨absent, same⟩

end Relmap
