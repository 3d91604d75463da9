import Relmap.Schema.Metadata

/-!
# The registry

All mapped tables of an application, with their links checked: names are taken once, every linked
table is registered, a translation is configured as one, and a table has at most one parent, from
which no path leads back to it. A registry is the list of its tables; links are followed by name.
-/

namespace Relmap

namespace Registry

/-- The table with the given name. -/
def table? (tables : List Metadata) (name : String) : Option Metadata :=
  tables.find? fun m => m.table == name

/-- Two tables stand for the same entity in the same way, as rows or as translations. -/
def sharesEntity (m other : Metadata) : Bool :=
  m.entity.isSome && m.entity == other.entity && m.isTranslation == other.isTranslation

/-- A name of the table that an earlier table has taken. -/
def clash? (earlier : List Metadata) (m : Metadata) : Option ConfigurationFault :=
  if earlier.any fun other => other.table == m.table then some (.tableTaken m.table)
  else if earlier.any (sharesEntity m) then some (.entityTaken m.isTranslation m.displayName)
  else none

/-- The first clash of names among tables that follow earlier ones. -/
def clashAmong? (earlier : List Metadata) : List Metadata → Option ConfigurationFault
  | [] => none
  | m :: rest => (clash? earlier m).or (clashAmong? (earlier ++ [m]) rest)

/-- A table has the given one as a subclass. -/
def hasChild (m : Metadata) (child : String) : Bool := m.subclasses.any fun s => s.2 == child

/-- The first subclass of the table that is not registered. -/
def missingChild? (tables : List Metadata) (m : Metadata) : Option ConfigurationFault :=
  m.subclasses.findSome? fun s =>
    if (table? tables s.2).isSome then none else some (.missingSubclass s.2 m.table)

/-- The first subclass of the table that an earlier table has as well. -/
def sharedChild? (earlier : List Metadata) (m : Metadata) : Option ConfigurationFault :=
  m.subclasses.findSome? fun s =>
    (earlier.find? fun parent => hasChild parent s.2).map fun parent =>
      .twoParents s.2 parent.table m.table

/-- What is wrong with the translation of the table. -/
def translationFault? (tables : List Metadata) (m : Metadata) : Option ConfigurationFault :=
  m.translation.bind fun name =>
    match table? tables name with
    | none => some (.missingTranslation name m.table)
    | some translation =>
      if translation.isTranslation then none else some (.notTranslationTable name m.table)

/-- The first fault in the links of tables that follow earlier ones. -/
def linkFault? (tables : List Metadata) (earlier : List Metadata) :
    List Metadata → Option ConfigurationFault
  | [] => none
  | m :: rest =>
    (missingChild? tables m).or <| (sharedChild? earlier m).or <|
      (translationFault? tables m).or (linkFault? tables (earlier ++ [m]) rest)

/-- The table that has the given one as a subclass. -/
def parent? (tables : List Metadata) (name : String) : Option Metadata :=
  tables.find? fun m => hasChild m name

/-- The chain of parents from a table ends within the given number of steps. -/
def parentsEnd (tables : List Metadata) : Nat → String → Bool
  | 0, _ => false
  | steps + 1, name =>
    match parent? tables name with
    | none => true
    | some parent => parentsEnd tables steps parent.table

/-- The first table from which the chain of parents does not end. -/
def cycle? (tables : List Metadata) : Option ConfigurationFault :=
  (tables.find? fun m => !parentsEnd tables tables.length m.table).map fun m =>
    .inheritanceCycle m.table

/-- The first thing wrong with a list of tables. -/
def fault? (tables : List Metadata) : Option ConfigurationFault :=
  (clashAmong? [] tables).or <| (linkFault? tables [] tables).or (cycle? tables)

end Registry

/-- Tables that fit together. -/
structure Registry where
  tables : List Metadata
  faultless : Registry.fault? tables = none

namespace Registry

/-- The registry without tables. -/
def empty : Registry := ⟨[], rfl⟩

/-- The registry of the tables, if they fit together. -/
def ofTables (tables : List Metadata) : Except Error Registry :=
  match h : fault? tables with
  | some fault => .error (.configuration fault)
  | none => .ok ⟨tables, h⟩

/-- Registers tables after earlier ones. It stops at the first that cannot be described or whose
names are taken. -/
def collect (earlier : List Metadata) : List (Except Error Metadata) → Except Error (List Metadata)
  | [] => .ok earlier
  | .error e :: _ => .error e
  | .ok m :: rest =>
    match clash? earlier m with
    | some fault => .error (.configuration fault)
    | none => collect (earlier ++ [m]) rest

/-- The registry of described tables, in their order. -/
def build (described : List (Except Error Metadata)) : Except Error Registry :=
  match collect [] described with
  | .error e => .error e
  | .ok tables => ofTables tables

/-- The names of the tables in order of registration. -/
def names (r : Registry) : List String := r.tables.map (·.table)

def size (r : Registry) : Nat := r.tables.length

/-- The note that a registry was built. -/
def note (r : Registry) : String := "schema registry built; tables=" ++ Text.literals r.names

/-- The table with the given name. -/
def find? (r : Registry) (name : String) : Option Metadata := table? r.tables name

/-- The table with the given name, which must be registered. -/
def forTable (r : Registry) (name : String) : Except Error Metadata :=
  match r.find? name with
  | some m => .ok m
  | none => .error (.configuration (.unknownTable name))

/-- The table of an entity. -/
def forEntity (r : Registry) (entity : String) : Except Error Metadata :=
  match r.tables.find? fun m => m.entity == some entity && !m.isTranslation with
  | some m => .ok m
  | none => .error (.configuration (.unknownEntity entity))

/-- The table of the translations of an entity. -/
def forTranslationEntity (r : Registry) (entity : String) : Except Error Metadata :=
  match r.tables.find? fun m => m.entity == some entity && m.isTranslation with
  | some m => .ok m
  | none => .error (.configuration (.unknownTranslationEntity entity))

/-- The place of a table in the order of registration. -/
def position (r : Registry) (m : Metadata) : Nat :=
  r.tables.findIdx fun other => other.table == m.table

/-- The table that has the given one as a subclass. -/
def parentOf? (r : Registry) (m : Metadata) : Option Metadata := parent? r.tables m.table

/-- The tables of the subclasses by discriminator. -/
def subclassesOf (r : Registry) (m : Metadata) : Keyed Metadata :=
  m.subclasses.filterMap fun s => (r.find? s.2).map fun child => (s.1, child)

/-- The translation of a table. -/
def translationOf? (r : Registry) (m : Metadata) : Option Metadata :=
  m.translation.bind r.find?

/-- The translation of a table that must have one. -/
def translationOf (r : Registry) (m : Metadata) : Except Error Metadata :=
  match r.translationOf? m with
  | some translation => .ok translation
  | none => .error (.lookup (.noTranslation m.table))

/-- The subclass of a discriminator. -/
def subclassOf (r : Registry) (m : Metadata) (discriminator : String) : Except Error Metadata :=
  let subclasses := r.subclassesOf m
  if subclasses.isEmpty then .error (.lookup (.noSubclasses discriminator m.table))
  else
    match subclasses.get? discriminator with
    | some child => .ok child
    | none => .error (.lookup (.unknownDiscriminator discriminator m.table subclasses.names))

end Registry
end Relmap
