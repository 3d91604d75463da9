import Relmap.Json.Reader
import Relmap.Schema.Draft

/-!
# Table definitions

Tables described as structured data. A record is an object with known, distinct members, or an
array of its members in their order; members at the end that have a default may be left out.
-/

namespace Relmap

namespace Json

/-- The members of a record by name. -/
def record? (names : List String) : Json → Option (Keyed Json)
  | .obj members =>
    if (members.map (·.1)).all names.contains
      && (members.map (·.1)).eraseDups.length = members.length
    then some members
    else none
  | .arr items => if items.length ≤ names.length then some (names.zip items) else none
  | _ => none

/-- A member that must be present. -/
def required? {α : Type} (members : Keyed Json) (name : String) (read : Json → Option α) :
    Option α :=
  members.get? name >>= read

/-- A member that has a default. -/
def withDefault? {α : Type} (members : Keyed Json) (name : String) (default : α)
    (read : Json → Option α) : Option α :=
  match members.get? name with
  | some value => read value
  | none => some default

/-- A string. -/
def asText? : Json → Option String
  | .str s => some s
  | _ => none

/-- A value, or null for none. -/
def asOptional? {α : Type} (read : Json → Option α) : Json → Option (Option α)
  | .null => some none
  | value => (read value).map some

/-- An array of values. -/
def asList? {α : Type} (read : Json → Option α) : Json → Option (List α)
  | .arr items => items.mapM read
  | _ => none

/-- An object as an ordered map. A repeated key keeps its place and takes the last value. -/
def asKeyed? {α : Type} (read : Json → Option α) : Json → Option (Keyed α)
  | .obj members => (members.mapM fun m => (read m.2).map fun a => (m.1, a)).map Keyed.ofList
  | _ => none

/-- One of several names: a string, or an object whose only member has the name and is null. -/
def asName? {α : Type} (named : String → Option α) : Json → Option α
  | .str s => named s
  | .obj [(s, .null)] => named s
  | _ => none

end Json

/-- A relationship described as data. -/
structure RelationshipDefinition where
  target : String
  property : String
  foreignKey : Option String
  relatedId : String
  join : JoinType
  kind : RelationshipKind
deriving DecidableEq, Repr

/-- A table described as data. -/
structure TableDefinition where
  table : String
  entity : Option String
  columns : Keyed ColumnType
  identifier : List String
  subclasses : Keyed String
  translation : Option String
  translationOf : Option TranslationColumns
  relationships : List RelationshipDefinition
deriving Repr

namespace RelationshipDefinition

def fieldNames : List String :=
  ["target", "property", "foreign_key", "related_id", "join", "kind"]

def ofJson? (j : Json) : Option RelationshipDefinition := do
  let members ← j.record? fieldNames
  pure {
    target := ← Json.required? members "target" Json.asText?
    property := ← Json.required? members "property" Json.asText?
    foreignKey := ← Json.withDefault? members "foreign_key" none (Json.asOptional? Json.asText?)
    relatedId := ← Json.required? members "related_id" Json.asText?
    join := ← Json.withDefault? members "join" .joined (Json.asName? JoinType.named?)
    kind := ← Json.withDefault? members "kind" .manyToOne (Json.asName? RelationshipKind.named?) }

/-- The described relationship. A link to one row has a foreign key, a link to many has none. -/
def relationship (d : RelationshipDefinition) : Except Error Relationship :=
  match d.kind, d.foreignKey with
  | .oneToMany, some _ => .error (.mapping (.needlessForeignKey d.property))
  | .oneToMany, none => (Relationship.toMany d.target d.property d.relatedId).withJoin d.join
  | .manyToOne, none => .error (.mapping (.missingForeignKey d.property))
  | .manyToOne, some foreignKey =>
    (Relationship.toOne d.target d.property foreignKey d.relatedId).withJoin d.join

end RelationshipDefinition

/-- The two columns of a translation described as data. -/
def TranslationColumns.ofJson? (j : Json) : Option TranslationColumns := do
  let members ← j.record? ["translatable_id", "language_id"]
  pure {
    translatableId := ← Json.required? members "translatable_id" Json.asText?
    languageId := ← Json.required? members "language_id" Json.asText? }

namespace TableDefinition

def fieldNames : List String :=
  ["table", "entity", "columns", "identifier", "subclasses", "translation", "translation_of",
   "relationships"]

def ofJson? (j : Json) : Option TableDefinition := do
  let members ← j.record? fieldNames
  pure {
    table := ← Json.required? members "table" Json.asText?
    entity := ← Json.withDefault? members "entity" none (Json.asOptional? Json.asText?)
    columns := ← Json.required? members "columns" (Json.asKeyed? (Json.asName? ColumnType.named?))
    identifier := ← Json.withDefault? members "identifier" [] (Json.asList? Json.asText?)
    subclasses := ← Json.withDefault? members "subclasses" [] (Json.asKeyed? Json.asText?)
    translation := ← Json.withDefault? members "translation" none (Json.asOptional? Json.asText?)
    translationOf := ← Json.withDefault? members "translation_of" none
      (Json.asOptional? TranslationColumns.ofJson?)
    relationships := ← Json.withDefault? members "relationships" []
      (Json.asList? RelationshipDefinition.ofJson?) }

/-- The definition in a text. -/
def ofText (s : String) : Except Error TableDefinition :=
  readAs "table definition" (Json.read? s >>= ofJson?)

/-- The definitions in a text that holds an array of them. -/
def listOfText (s : String) : Except Error (List TableDefinition) :=
  readAs "table definitions" (Json.read? s >>= Json.asList? ofJson?)

/-- The draft with everything but the relationships. -/
def draft (d : TableDefinition) : Draft :=
  let start := d.columns.foldl (fun draft c => draft.column c.1 c.2) (Draft.ofTable d.table)
  let start := match d.entity with
    | some entity => start.entity entity
    | none => start
  let start := d.identifier.foldl Draft.identifier start
  let start := d.subclasses.foldl (fun draft s => draft.subclass s.1 s.2) start
  let start := match d.translation with
    | some table => start.translation table
    | none => start
  match d.translationOf with
  | some columns => start.translationOf columns
  | none => start

/-- The described metadata. -/
def metadata (d : TableDefinition) : Except Error Metadata :=
  match d.relationships.mapM RelationshipDefinition.relationship with
  | .error e => .error e
  | .ok relationships => (relationships.foldl Draft.relationship d.draft).finish

end TableDefinition
end Relmap
