import Relmap.Database.Driver
import Relmap.Sql.Render

/-!
# Scripts

A driver that runs nothing: it records what it is asked to run and gives prepared replies in their
order.
-/

namespace Relmap

open Sql

/-- A statement as it was written for a database, with the values bound to it. -/
structure WrittenStatement where
  sql : String
  values : List BoundValue

/-- The replies that are left, and what was asked so far. -/
structure Script where
  replies : List (Except Error Response)
  record : List WrittenStatement

namespace Script

/-- Takes the next reply. -/
def reply (s : Script) : Except Error Response × Script :=
  match s.replies with
  | [] => (.error (.driver "no scripted response left" []), s)
  | next :: rest => (next, { s with replies := rest })

/-- Records a request and takes the next reply. A statement that cannot be rendered is answered with
its error. -/
def exec (flavor : Flavor) (request : Request) (s : Script) : Except Error Response × Script :=
  let written := request.statement.render flavor request.params
  match written.outcome with
  | .error e => (.error e, s)
  | .ok sql => reply { s with record := s.record ++ [⟨sql, written.values⟩] }

/-- The driver that follows a script. -/
def driver (flavor : Flavor) (capability : Capability) : Driver Script :=
  ⟨"Scripted", capability, exec flavor⟩

end Script
end Relmap
