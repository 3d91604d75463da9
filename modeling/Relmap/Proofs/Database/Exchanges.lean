import Relmap.Database.Operation
import Relmap.Proofs.Outcome

/-!
# Exchanges with a driver

What an operation sends to a driver and what it gets in return, in the order of a run. Main
statement, `exchanges_bind`: an operation that goes on with another one has the exchanges of both,
unless the first fails.
-/

namespace Relmap

/-- A request and the answer of a driver. -/
structure Exchange where
  request : Request
  reply : Except Error Response

namespace Operation

variable {α β σ : Type}

/-- The exchanges of an operation with a driver. A request that fails is the last one. -/
def exchanges (d : Driver σ) (op : Operation α) (state : σ) : List Exchange :=
  match op with
  | .finish _ => []
  | .note _ rest => exchanges d rest state
  | .send request next =>
    match d.exec request state with
    | (.error e, _) => [⟨request, .error e⟩]
    | (.ok response, state) => ⟨request, .ok response⟩ :: exchanges d (next response) state

theorem exchanges_bind (d : Driver σ) (op : Operation α) (f : α → Operation β) (state : σ) :
    exchanges d (op.bind f) state = exchanges d op state ++
      match (run d op state).outcome with
      | .ok a => exchanges d (f a) (run d op state).state
      | .error _ => [] := by
  induction op generalizing state with
  | finish outcome => cases outcome <;> rfl
  | note text rest ih => exact ih state
  | send request next ih =>
    simp only [bind, exchanges, run]
    rcases d.exec request state with ⟨_ | response, after⟩
    · rfl
    · exact congrArg (⟨request, .ok response⟩ :: ·) (ih response after)

/-- An operation that goes on with the result of another one: their exchanges and the outcome. -/
theorem bind_of_ok {d : Driver σ} {op : Operation α} {a : α} {state : σ} (f : α → Operation β)
    (ok : (run d op state).outcome = .ok a) :
    exchanges d (op.bind f) state =
        exchanges d op state ++ exchanges d (f a) (run d op state).state ∧
      (run d (op.bind f) state).outcome = (run d (f a) (run d op state).state).outcome := by
  rw [exchanges_bind, run_bind, Run.andThen, ok]
  exact ⟨rfl, rfl⟩

/-- An operation whose first part fails: its exchanges and the outcome. -/
theorem bind_of_error {d : Driver σ} {op : Operation α} {e : Error} {state : σ}
    (f : α → Operation β) (failed : (run d op state).outcome = .error e) :
    exchanges d (op.bind f) state = exchanges d op state ∧
      (run d (op.bind f) state).outcome = .error e := by
  rw [exchanges_bind, run_bind, Run.andThen, failed]
  exact ⟨List.append_nil _, rfl⟩

/-- The result of an operation is that of its last part. -/
theorem ok_of_bind {d : Driver σ} {op : Operation α} {f : α → Operation β} {b : β} {state : σ}
    (ok : (run d (op.bind f) state).outcome = .ok b) :
    ∃ a, (run d op state).outcome = .ok a ∧
      (run d (f a) (run d op state).state).outcome = .ok b := by
  cases first : (run d op state).outcome with
  | error e =>
    rw [(bind_of_error f first).2] at ok
    cases ok
  | ok a => exact ⟨a, rfl, (bind_of_ok f first).2.symm.trans ok⟩

/-- One request, after which an operation ends with the response to it. -/
theorem exec_finish (d : Driver σ) (request : Request) (finish : Response → Except Error α)
    (state : σ) :
    exchanges d ((exec request).bind fun response => .finish (finish response)) state =
        [⟨request, (d.exec request state).1⟩] ∧
      (run d ((exec request).bind fun response => .finish (finish response)) state).outcome =
        (d.exec request state).1 >>= finish := by
  simp only [exec, bind, exchanges, run]
  rcases d.exec request state with ⟨e | response, after⟩
  · exact ⟨rfl, rfl⟩
  · exact ⟨rfl, rfl⟩

end Operation
end Relmap
