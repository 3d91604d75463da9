import Relmap.Gateway.Read
import Relmap.Gateway.Write

/-!
# Translation gateways

A gateway to the rows of a translation table, which are addressed by the identifier of the row that
they translate and by a language.
-/

namespace Relmap

/-- A gateway to a table with translation columns. -/
structure TranslationGateway where
  base : Gateway
  columns : TranslationColumns
  translates : base.metadata.translationColumns = some columns

/-- The gateway to a translation table. -/
def Database.translationGateway (db : Database) (table : String) :
    Except Error TranslationGateway := do
  let g ← db.gateway table
  match h : g.metadata.translationColumns with
  | some columns => pure ⟨g, columns, h⟩
  | none => .error (.lookup (.notTranslationTable g.table))

namespace TranslationGateway

/-- The row that addresses a translation. -/
def key (g : TranslationGateway) (id language : Int64) : Row :=
  .ofList [(g.columns.translatableId, .int id), (g.columns.languageId, .int language)]

/-- Finds the translations of a row. -/
def findOf (g : TranslationGateway) (id : Int64) : Operation (List Row) :=
  g.base.find (.ofField g.columns.translatableId (.int id)) [] none 0

/-- Finds the translations of several rows. -/
def findOfAll (g : TranslationGateway) (ids : List Int64) : Operation (List Row) :=
  g.base.find (.ofField g.columns.translatableId (.list (ids.map .int))) [] none 0

/-- Counts the translations of a row. -/
def countOf (g : TranslationGateway) (id : Int64) : Operation Nat :=
  g.base.count (.ofField g.columns.translatableId (.int id))

/-- The row to insert for a translation. An address that is in the data takes precedence. -/
def addressed (g : TranslationGateway) (id language : Int64) (data : Row) : Row :=
  (data.insertNew g.columns.translatableId (.int id)).insertNew g.columns.languageId (.int language)

/-- Inserts a translation. -/
def insert (g : TranslationGateway) (id language : Int64) (data : Row) : Operation Int64 :=
  g.base.insert (g.addressed id language data)

/-- Updates a translation and yields how many rows were changed. -/
def update (g : TranslationGateway) (id language : Int64) (data : Row) : Operation Nat :=
  g.base.update (g.key id language) data

/-- There is a translation. -/
def contains (g : TranslationGateway) (id language : Int64) : Operation Bool := do
  let row ← g.base.findOne (.ofRow (g.key id language)) []
  pure row.isSome

/-- Updates a translation that exists and inserts one that does not. -/
def save (g : TranslationGateway) (id language : Int64) (data : Row) : Operation Unit := do
  if ← g.contains id language then
    let _ ← g.update id language data
  else
    let _ ← g.insert id language data

/-- Deletes a translation and yields how many rows were removed. -/
def delete (g : TranslationGateway) (id language : Int64) : Operation Nat :=
  g.base.delete (g.key id language)

/-- The row as a translation of another row, without its own identifier. -/
def readdressed (g : TranslationGateway) (id : Int64) (row : Row) : Row :=
  (g.base.metadata.identifier.foldl Keyed.erase row).insert g.columns.translatableId (.int id)

/-- Inserts rows one after the other. -/
def insertAll (g : TranslationGateway) : List Row → Operation Unit
  | [] => pure ()
  | row :: rest => do
    let _ ← g.base.insert row
    insertAll g rest

/-- Copies the translations of a row to another one. -/
def copy (g : TranslationGateway) (source target : Int64) : Operation Unit := do
  let rows ← g.findOf source
  g.insertAll (rows.map (g.readdressed target))

end TranslationGateway
end Relmap
