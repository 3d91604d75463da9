import Relmap.Schema.Metadata

/-!
# Drafts

Metadata under construction. A step that fails is left out, and the first failure is reported when
the draft is finished.
-/

namespace Relmap

/-- Metadata under construction, with the first failure so far. -/
structure Draft where
  metadata : Metadata
  failure : Option Error

namespace Draft

/-- The draft of a table without columns. -/
def ofTable (table : String) : Draft := ⟨.ofColumns table [] [], none⟩

def entity (d : Draft) (entity : String) : Draft :=
  { d with metadata := { d.metadata with entity := some entity } }

/-- Adds a column. A column that is declared again takes the new type. -/
def column (d : Draft) (name : String) (type : ColumnType) : Draft :=
  { d with metadata := { d.metadata with columns := d.metadata.columns.insert name type } }

/-- Adds an identifier column. -/
def identifier (d : Draft) (column : String) : Draft :=
  { d with metadata := { d.metadata with identifier := d.metadata.identifier ++ [column] } }

/-- Takes a step that may fail, unless one has failed. -/
def attempt (d : Draft) (step : Metadata → Except Error Metadata) : Draft :=
  match d.failure with
  | some _ => d
  | none =>
    match step d.metadata with
    | .ok metadata => { d with metadata }
    | .error e => { d with failure := some e }

def subclass (d : Draft) (discriminator table : String) : Draft :=
  d.attempt fun m => m.addSubclass discriminator table

def translation (d : Draft) (table : String) : Draft :=
  { d with metadata := d.metadata.setTranslation table }

/-- Marks the table as the translation of another one. -/
def translationOf (d : Draft) (columns : TranslationColumns) : Draft :=
  { d with metadata := { d.metadata with translationColumns := some columns } }

def relationship (d : Draft) (r : Relationship) : Draft := d.attempt fun m => m.addRelationship r

/-- The translation columns of a table, the language first. -/
def translationNames (m : Metadata) : List String :=
  match m.translationColumns with
  | some columns => [columns.languageId, columns.translatableId]
  | none => []

/-- The finished metadata: the table has a name and declares the columns that it builds on. -/
def finish (d : Draft) : Except Error Metadata :=
  let m := d.metadata
  match d.failure with
  | some e => .error e
  | none =>
    if m.table.isEmpty then .error (.mapping .emptyTableName)
    else
      match m.identifier.find? fun column => !m.hasColumn column with
      | some column => .error (.mapping (.strayIdentifier column m.table))
      | none =>
        match (translationNames m).find? fun column => !m.hasColumn column with
        | some column => .error (.mapping (.strayTranslationColumn column m.table))
        | none => .ok m

end Draft
end Relmap
