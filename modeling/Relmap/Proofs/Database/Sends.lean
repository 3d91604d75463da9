import Relmap.Database.Operation

/-!
# Requests of an operation

The requests that an operation sends if a driver answers as it may.
-/

namespace Relmap.Operation

variable {α β : Type}

/-- The operation sends the request after some responses. -/
inductive Sends : Operation α → Request → Prop
  | here {request : Request} {next : Response → Operation α} : Sends (.send request next) request
  | note {text : String} {rest : Operation α} {request : Request} :
      Sends rest request → Sends (.note text rest) request
  | later {first request : Request} {next : Response → Operation α} (response : Response) :
      Sends (next response) request → Sends (.send first next) request

/-- An outcome that is gone on with sends what comes after it. -/
theorem sends_of_lift {outcome : Except Error α} {next : α → Operation β} {request : Request}
    (sends : ((finish outcome).bind next).Sends request) :
    ∃ a, outcome = .ok a ∧ (next a).Sends request := by
  cases outcome with
  | error e => cases sends
  | ok a => exact ⟨a, rfl, sends⟩

/-- An outcome that follows an operation sends nothing more. -/
theorem sends_of_map {op : Operation α} {outcome : α → Except Error β} {request : Request}
    (sends : (op.bind fun a => .finish (outcome a)).Sends request) : op.Sends request := by
  induction op with
  | finish result => cases result <;> cases sends
  | note text rest ih =>
    cases sends with
    | note sends => exact .note (ih sends)
  | send first next ih =>
    cases sends with
    | here => exact .here
    | later response sends => exact .later response (ih response sends)

/-- One request is sent by an operation that ends with the response to it. -/
theorem sends_exec_finish {request sent : Request} {finish : Response → Except Error α} :
    ((exec request).bind fun response => .finish (finish response)).Sends sent ↔
      sent = request := by
  constructor
  · intro sends
    cases sends with
    | note sends =>
      cases sends with
      | here => rfl
      | later response sends => cases sends
  · rintro rfl
    exact .note .here

end Relmap.Operation
