import Relmap.Database.Operation
import Relmap.Schema.Registry

/-!
# Databases

A registry of tables together with what the driver behind it supports.
-/

namespace Relmap

/-- The tables of a database and the capability of its driver. -/
structure Database where
  registry : Registry
  capability : Capability

namespace Database

/-- A database of described tables. Its driver must run SQL. -/
def build (driverName : String) (capability : Capability)
    (described : List (Except Error Metadata)) : Except Error Database :=
  if capability.sql then (Registry.build described).map fun registry => ⟨registry, capability⟩
  else .error (.configuration (.noSql driverName))

/-- The notes that a database was built. -/
def notes (db : Database) (driverName : String) : List String :=
  [db.registry.note,
    "registry built with " ++ toString db.registry.size ++ " table(s); driver=" ++ driverName]

end Database
end Relmap
