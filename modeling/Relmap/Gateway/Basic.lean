import Relmap.Compile.Condition
import Relmap.Database.Basic

/-!
# Gateways

A gateway reads and writes the rows of one table. Every column that a caller names is looked up in
the schema before any statement is built.
-/

namespace Relmap

/-- A registered table of a database, with the alias that queries give it. -/
structure Gateway where
  database : Database
  metadata : Metadata
  aliasName : String
  registered : database.registry.find? metadata.table = some metadata

namespace Registry

theorem table_of_find? {r : Registry} {name : String} {m : Metadata} (h : r.find? name = some m) :
    m.table = name := by
  simpa using List.find?_some h

end Registry

/-- The gateway to a table under an alias. -/
def Database.gatewayAs (db : Database) (table aliasName : String) : Except Error Gateway :=
  match h : db.registry.find? table with
  | some m => .ok ⟨db, m, aliasName, by rw [Registry.table_of_find? h, h]⟩
  | none => .error (.configuration (.unknownTable table))

/-- The gateway to a table under its own name. -/
def Database.gateway (db : Database) (table : String) : Except Error Gateway :=
  db.gatewayAs table table

namespace Gateway

def registry (g : Gateway) : Registry := g.database.registry

def table (g : Gateway) : String := g.metadata.table

/-- The tables of the subclasses by discriminator. -/
def subclasses (g : Gateway) : Keyed Metadata := g.registry.subclassesOf g.metadata

/-- The type of a column that the table reaches. -/
def columnType (g : Gateway) (column : String) : Except Error ColumnType :=
  g.registry.columnType g.metadata column

/-- A row in the form in which the database stores it. -/
def toStored (g : Gateway) (row : Row) : Except Error Row := g.registry.toStored g.metadata row

/-- The table reaches the column. -/
def reaches (g : Gateway) (column : String) : Bool :=
  match g.registry.resolve g.metadata column with
  | .ok _ => true
  | .error _ => false

/-- The columns of a fetched row that the table reaches, in the form in which an application holds
them. -/
def toApplication (g : Gateway) (row : Row) : Except Error Row :=
  g.registry.toApplication g.metadata (row.filter fun entry => g.reaches entry.1)

end Gateway
end Relmap
