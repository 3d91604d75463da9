import Relmap.Schema.Relationship
import Relmap.Keyed

/-!
# Metadata

The description of one mapped table. Links to other tables are kept by name.
-/

namespace Relmap

/-- The columns that make a table the translation of another one. -/
structure TranslationColumns where
  /-- The column that points at the translated row. -/
  translatableId : String
  languageId : String
deriving DecidableEq, Repr

/-- The description of a table. -/
structure Metadata where
  table : String
  /-- The entity that the rows stand for, if the application has one for them. -/
  entity : Option String
  columns : Keyed ColumnType
  identifier : List String
  /-- The tables of the subclasses by discriminator. -/
  subclasses : Keyed String
  /-- The table that holds the translated columns. -/
  translation : Option String
  /-- Present if this table is itself a translation. -/
  translationColumns : Option TranslationColumns
  relationships : List Relationship
deriving Repr

namespace Metadata

/-- A table with columns and nothing else. -/
def ofColumns (table : String) (columns : Keyed ColumnType) (identifier : List String) : Metadata :=
  ⟨table, none, columns, identifier, [], none, none, []⟩

/-- The name that messages use. -/
def displayName (m : Metadata) : String := m.entity.getD m.table

def hasColumn (m : Metadata) (column : String) : Bool := m.columns.has column

/-- The only identifier column. -/
def identifierColumn (m : Metadata) : Except Error String :=
  match m.identifier with
  | [column] => .ok column
  | [] => .error (.mapping (.noIdentifier m.table))
  | _ => .error (.mapping (.compositeIdentifier m.table))

/-- Subclasses have tables of their own. -/
def hasSubclasses (m : Metadata) : Bool := !m.subclasses.isEmpty

def isTranslation (m : Metadata) : Bool := m.translationColumns.isSome

/-- The columns that make the table a translation. -/
def requireTranslation (m : Metadata) : Except Error TranslationColumns :=
  match m.translationColumns with
  | some columns => .ok columns
  | none => .error (.lookup (.notTranslationTable m.table))

def translatableIdColumn (m : Metadata) : Except Error String :=
  m.requireTranslation.map (·.translatableId)

def languageIdColumn (m : Metadata) : Except Error String :=
  m.requireTranslation.map (·.languageId)

/-- The relationship is looked up by its foreign key: it has one, outside the identifier. -/
def hasForeignColumn (m : Metadata) (r : Relationship) : Bool :=
  !r.isToMany && !m.identifier.contains r.foreignKey

/-- The properties in order. -/
def properties (m : Metadata) : List String := m.relationships.map (·.property)

/-- The foreign key columns that lead to a relationship. -/
def foreignColumns (m : Metadata) : List String :=
  (m.relationships.filter m.hasForeignColumn).map (·.foreignKey)

/-- The relationship of a property. -/
def relationshipOf (m : Metadata) (property : String) : Except Error Relationship :=
  match m.relationships.find? fun r => r.property == property with
  | some r => .ok r
  | none => .error (.lookup (.unknownProperty property m.displayName m.properties))

/-- The relationship that holds its link in a column. -/
def relationshipThrough (m : Metadata) (column : String) : Except Error Relationship :=
  match (m.relationships.filter m.hasForeignColumn).find? fun r => r.foreignKey == column with
  | some r => .ok r
  | none => .error (.lookup (.unknownForeignColumn column m.displayName m.foreignColumns))

/-- Adds the table of a subclass. -/
def addSubclass (m : Metadata) (discriminator table : String) : Except Error Metadata :=
  if m.subclasses.has discriminator then .error (.mapping (.discriminatorTaken discriminator))
  else .ok { m with subclasses := m.subclasses.insert discriminator table }

/-- Adds a relationship. Its property and its foreign key column must be new. -/
def addRelationship (m : Metadata) (r : Relationship) : Except Error Metadata :=
  if m.properties.contains r.property then .error (.mapping (.propertyTaken r.property))
  else if m.hasForeignColumn r && m.foreignColumns.contains r.foreignKey then
    .error (.mapping (.foreignColumnTaken r.foreignKey))
  else .ok { m with relationships := m.relationships ++ [r] }

def setTranslation (m : Metadata) (table : String) : Metadata :=
  { m with translation := some table }

end Metadata
end Relmap
