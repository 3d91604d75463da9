import Relmap.Gateway.Basic

/-!
# Writing rows

The operations of a gateway that insert, update and delete rows. The statement of each is a plain
value before it is sent.
-/

namespace Relmap

open Sql

namespace Gateway

/-- The values of a row in stored form as parameters, each named for its column. -/
def columnParameters (g : Gateway) (row : Row) : Except Error (List Parameter) := do
  let stored ← g.toStored row
  stored.mapM fun entry => (g.columnType entry.1).map fun type => ⟨entry.1, entry.2, type⟩

/-- Writes every parameter to the column of its name. -/
def assignments (params : List Parameter) : List (String × Expr) :=
  params.map fun p => (p.name, .placeholder p.name)

/-- The name of the parameter that a column is filtered by, apart from the one that is assigned. -/
def filterName (column : String) : String := "where_" ++ column

/-- The condition that a column has the value of the parameter of its name. -/
def filterCondition (p : Parameter) : Expr :=
  match p.value with
  | .null => .isNull false (.bare p.name)
  | .list _ => .inList false (.bare p.name) (.placeholder (filterName p.name))
  | _ => .equal (.bare p.name) (.placeholder (filterName p.name))

/-- The parameters of the conditions. A test against null needs none. -/
def filterParameters (params : List Parameter) : List Parameter :=
  (params.filter fun p => !p.value.isNull).map fun p => { p with name := filterName p.name }

/-- The insertion of a row. -/
def insertion (g : Gateway) (data : Row) : Except Error Request := do
  let params ← g.columnParameters data
  pure ⟨.insert g.table (assignments params), params⟩

/-- The update of the rows with the values of `where`. -/
def updating (g : Gateway) («where» data : Row) : Except Error Request := do
  let params ← g.columnParameters data
  let filters ← g.columnParameters «where»
  pure ⟨.update g.table (assignments params) (filters.map filterCondition),
    params ++ filterParameters filters⟩

/-- The deletion of the rows with the values of `where`. -/
def deletion (g : Gateway) («where» : Row) : Except Error Request := do
  let filters ← g.columnParameters «where»
  pure ⟨.delete g.table (filters.map filterCondition), filterParameters filters⟩

/-- The identifier that a response reports. -/
def generatedId (response : Response) : Except Error Int64 :=
  match response.insertedId with
  | some id => .ok id
  | none => .error (.internal .noInsertedId)

/-- Inserts a row and yields the identifier that the database generated. -/
def insert (g : Gateway) (data : Row) : Operation Int64 := do
  if g.database.capability.generatedIds then
    let request ← g.insertion data
    let response ← Operation.exec request
    generatedId response
  else .finish (.error (.configuration .noGeneratedIds))

/-- Sends a request and yields the number of rows that it changed. -/
def changedBy (request : Except Error Request) : Operation Nat := do
  let request ← request
  let response ← Operation.exec request
  response.rows.changed

/-- Updates rows and yields how many were changed. -/
def update (g : Gateway) («where» data : Row) : Operation Nat := changedBy (g.updating «where» data)

/-- Deletes rows and yields how many were removed. -/
def delete (g : Gateway) («where» : Row) : Operation Nat := changedBy (g.deletion «where»)

end Gateway
end Relmap
