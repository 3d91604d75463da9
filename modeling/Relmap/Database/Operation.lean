import Relmap.Database.Driver
import Relmap.Sql.Render

/-!
# Operations

An operation is the conversation that it has with a driver: it sends requests, goes on with the
responses and ends with an outcome. A request that fails ends it. On the way it makes notes for a
log, which have no part in the outcome.
-/

namespace Relmap

open Sql

/-- An operation on a database. -/
inductive Operation (α : Type) where
  | finish (outcome : Except Error α)
  | note (text : String) (rest : Operation α)
  | send (request : Request) (next : Response → Operation α)

namespace Operation

variable {α β σ : Type}

/-- Goes on with the result of an operation. -/
def bind (op : Operation α) (f : α → Operation β) : Operation β :=
  match op with
  | .finish (.ok a) => f a
  | .finish (.error e) => .finish (.error e)
  | .note text rest => .note text (rest.bind f)
  | .send request next => .send request fun response => (next response).bind f

instance : Monad Operation where
  pure a := .finish (.ok a)
  bind := bind

theorem bind_assoc {γ : Type} (op : Operation α) (f : α → Operation β) (g : β → Operation γ) :
    (op.bind f).bind g = op.bind fun a => (f a).bind g := by
  induction op with
  | finish outcome => cases outcome <;> rfl
  | note text rest ih => exact congrArg (note text) ih
  | send request next ih => exact congrArg (send request) (funext ih)

/-- An outcome is an operation that sends nothing. -/
instance : MonadLift (Except Error) Operation where
  monadLift := .finish

/-- Makes a note. -/
def remark (text : String) : Operation Unit := .note text (pure ())

/-- The note that a request is sent, with the statement in the named flavor. -/
def requestNote (request : Request) : String :=
  match (request.statement.render .named request.params).outcome with
  | .ok sql => "exec: " ++ sql ++ "; params=" ++ toString request.params.length
  | .error e => "exec: <unrenderable statement: " ++ e.message ++ ">"

/-- Sends a request and takes the response. -/
def exec (request : Request) : Operation Response :=
  .note (requestNote request) (.send request pure)

/-- The operation on one driver: its outcome, its notes and the state that it leaves. -/
structure Run (α σ : Type) where
  outcome : Except Error α
  notes : List String
  state : σ

/-- Runs an operation on a driver. -/
def run (d : Driver σ) (op : Operation α) (state : σ) : Run α σ :=
  match op with
  | .finish outcome => ⟨outcome, [], state⟩
  | .note text rest =>
    let r := run d rest state
    { r with notes := text :: r.notes }
  | .send request next =>
    match d.exec request state with
    | (.error e, state) => ⟨.error e, [], state⟩
    | (.ok response, state) => run d (next response) state

/-- Going on after a run: with its result on the state that it left, unless it failed. -/
def Run.andThen (r : Run α σ) (next : α → σ → Run β σ) : Run β σ :=
  match r.outcome with
  | .ok a =>
    let rest := next a r.state
    { rest with notes := r.notes ++ rest.notes }
  | .error e => ⟨.error e, r.notes, r.state⟩

/-- An operation that goes on with another one runs both, one after the other. -/
theorem run_bind (d : Driver σ) (op : Operation α) (f : α → Operation β) (state : σ) :
    run d (op.bind f) state = (run d op state).andThen fun a => run d (f a) := by
  induction op generalizing state with
  | finish outcome => cases outcome <;> rfl
  | note text rest ih =>
    simp only [bind, run, ih, Run.andThen]
    cases (run d rest state).outcome <;> rfl
  | send request next ih =>
    simp only [bind, run]
    rcases d.exec request state with ⟨_ | response, after⟩
    · rfl
    · exact ih response after

end Operation
end Relmap
