import Relmap.Compile.Walk

/-!
# Walks side by side

Two walks along the same criteria. What every comparison keeps, of the pair or of one walk alone, is
kept by criteria, whether or not they compile. Main statements: `Lockstep.criteria` and, for one
walk, `keeps_criteria`.
-/

namespace Relmap

open Sql

/-- Parts of two walks yield the same, leave walks that are related, and fail only in some ways. -/
structure Walked.Alike {α : Type} (related : Walk → Walk → Prop) (fails : Error → Prop)
    (a b : Walked α) : Prop where
  outcome : a.1 = b.1
  walks : related a.2 b.2
  fault : ∀ e, a.1 = .error e → fails e

/-- Comparisons in two scopes are alike on related walks, and so are criteria without operands. -/
structure Lockstep (s s' : Scope) (related : Walk → Walk → Prop) (fails : Error → Prop) : Prop where
  comparison : ∀ (field : String) (op : Operator) (value : Value) {w v : Walk}, related w v →
    Walked.Alike related fails (w.comparison s field op value) (v.comparison s' field op value)
  noOperands : ∀ kind, fails (.statement (.noOperands kind))
  operandCount : ∀ count, fails (.statement (.operandCount count))

section

variable {related : Walk → Walk → Prop} {fails : Error → Prop}

namespace Walked.Alike

variable {α β : Type} {w v : Walk}

theorem stop {e : Error} (fault : fails e) (walks : related w v) :
    Alike related fails ((.error e, w) : Walked α) (.error e, v) := by
  refine ⟨rfl, walks, ?_⟩
  rintro _ ⟨⟩
  exact fault

theorem yield {a : α} (walks : related w v) :
    Alike related fails ((.ok a, w) : Walked α) (.ok a, v) :=
  ⟨rfl, walks, nofun⟩

theorem map {a b : Walked α} (alike : Alike related fails a b) (f : α → β) :
    Alike related fails (a.map f) (b.map f) := by
  obtain ⟨outcome, w⟩ := a
  obtain ⟨_, v⟩ := b
  obtain ⟨rfl, walks, fault⟩ := alike
  cases outcome with
  | error e => exact .stop (fault e rfl) walks
  | ok a => exact .yield walks

/-- Parts that yield a condition are followed by the parts that yield the conditions after it. -/
theorem cons {a b : Walked Expr} {rest rest' : Walk → Walked (List Expr)} :
    Alike related fails a b →
      (∀ {w v : Walk}, related w v → Alike related fails (rest w) (rest' v)) →
      Alike related fails
        (match a with
          | (.error e, w) => (.error e, w)
          | (.ok condition, w) => (rest w).map (condition :: ·))
        (match b with
          | (.error e, w) => (.error e, w)
          | (.ok condition, w) => (rest' w).map (condition :: ·)) := by
  intro first later
  obtain ⟨outcome, w⟩ := a
  obtain ⟨_, v⟩ := b
  obtain ⟨rfl, walks, fault⟩ := first
  cases outcome with
  | error e => exact .stop (fault e rfl) walks
  | ok condition => exact (later walks).map _

end Walked.Alike

/-! ## Two walks -/

namespace Lockstep

variable {s s' : Scope}

mutual

theorem expression (step : Lockstep s s' related fails) : ∀ (e : Expression) {w v : Walk},
    related w v →
      Walked.Alike related fails (Walk.expression s e w) (Walk.expression s' e v)
  | .comparison field op value, w, v, walks => by
    simp only [Walk.expression]
    exact step.comparison field op value walks
  | .composite .and [], w, v, walks | .composite .or [], w, v, walks => by
    simp only [Walk.expression]
    exact .stop (step.noOperands _) walks
  | .composite .and (e :: rest), w, v, walks | .composite .or (e :: rest), w, v, walks => by
    simp only [Walk.expression]
    exact (step.operandsOf (e :: rest) walks).map _
  | .composite .not [e], w, v, walks => by
    simp only [Walk.expression]
    exact (step.expression e walks).map _
  | .composite .not [], w, v, walks | .composite .not (_ :: _ :: _), w, v, walks => by
    simp only [Walk.expression]
    exact .stop (step.operandCount _) walks

theorem operandsOf (step : Lockstep s s' related fails) : ∀ (operands : List Expression)
    {w v : Walk}, related w v →
      Walked.Alike related fails (Walk.operandsOf s operands w) (Walk.operandsOf s' operands v)
  | [], w, v, walks => by
    simp only [Walk.operandsOf]
    exact .yield walks
  | e :: rest, w, v, walks => by
    rw [Walk.operandsOf, Walk.operandsOf]
    exact (step.expression e walks).cons (step.operandsOf rest)

end

variable (step : Lockstep s s' related fails)
include step

theorem criterion (field : String) (c : Criterion) {w v : Walk} (walks : related w v) :
    Walked.Alike related fails (w.criterion s field c) (v.criterion s' field c) := by
  cases c with
  | value value => exact step.comparison field .eq value walks
  | expression e => exact step.expression e walks

theorem entries (fields : Keyed Criterion) {w v : Walk} (walks : related w v) :
    Walked.Alike related fails (Walk.entries s fields w) (Walk.entries s' fields v) := by
  induction fields generalizing w v with
  | nil => exact .yield walks
  | cons entry rest ih =>
    rw [Walk.entries, Walk.entries]
    exact (step.criterion entry.1 entry.2 walks).cons ih

/-- Criteria yield the same on related walks and leave related walks. -/
theorem criteria (c : Criteria) {w v : Walk} (walks : related w v) :
    Walked.Alike related fails (Walk.criteria s c w) (Walk.criteria s' c v) := by
  match c with
  | .expression e => exact (step.expression e walks).map _
  | .fields [] => exact .yield walks
  | .fields (entry :: rest) => exact (step.entries (entry :: rest) walks).map _

end Lockstep

end

/-! ## One walk -/

/-- What holds of a walk and is kept by every comparison holds of it after criteria, also after
those that fail, and criteria fail as comparisons do or because of the number of operands. -/
theorem keeps_criteria {s : Scope} (holds : Walk → Prop) (fails : Error → Prop)
    (comparison : ∀ (field : String) (op : Operator) (value : Value) {w : Walk}, holds w →
      holds (w.comparison s field op value).2 ∧
        ∀ e, (w.comparison s field op value).1 = .error e → fails e)
    (noOperands : ∀ kind, fails (.statement (.noOperands kind)))
    (operandCount : ∀ count, fails (.statement (.operandCount count)))
    (c : Criteria) {w : Walk} (start : holds w) :
    holds (Walk.criteria s c w).2 ∧ ∀ e, (Walk.criteria s c w).1 = .error e → fails e := by
  have step : Lockstep s s (fun w v => w = v ∧ holds w) fails := by
    refine ⟨fun field op value w v walks => ?_, noOperands, operandCount⟩
    obtain ⟨rfl, before⟩ := walks
    obtain ⟨after, fault⟩ := comparison field op value before
    exact ⟨rfl, ⟨rfl, after⟩, fault⟩
  obtain ⟨-, ⟨-, after⟩, fault⟩ := step.criteria c ⟨rfl, start⟩
  exact ⟨after, fault⟩

end Relmap
