import Relmap.Schema.Registry
import Relmap.Schema.Conversion

/-!
# Resolution of columns

A table reaches its own columns, those of its translation and those of its subclasses. A column of
a subclass has two names: its own, and its own after the discriminator.
-/

namespace Relmap

/-- Where a column is stored. -/
inductive Origin where
  | direct
  | translation (table : String)
  | inherited (table : String)
deriving DecidableEq, Repr

/-- The type of a column and where it is stored. -/
structure ResolvedColumn where
  type : ColumnType
  origin : Origin
deriving DecidableEq, Repr

/-- The name of a subclass column after its discriminator. -/
def prefixedColumn (discriminator column : String) : String := discriminator ++ "_" ++ column

namespace Registry

/-- Adds columns of one origin under names made from theirs, unless a name is present. -/
def addColumns (found : Keyed ResolvedColumn) (columns : Keyed ColumnType) (origin : Origin)
    (rename : String → String) : Keyed ResolvedColumn :=
  columns.foldl (fun found c => found.insertNew (rename c.1) ⟨c.2, origin⟩) found

/-- Adds the columns of a subclass: first all under their own names, then all after the
discriminator. -/
def addSubclassColumns (found : Keyed ResolvedColumn) (discriminator : String) (child : Metadata) :
    Keyed ResolvedColumn :=
  let found := addColumns found child.columns (.inherited child.table) id
  addColumns found child.columns (.inherited child.table) (prefixedColumn discriminator)

/-- Every column that a table reaches. -/
def reachableColumns (r : Registry) (m : Metadata) : Keyed ResolvedColumn :=
  let own := addColumns [] m.columns .direct id
  let translated := match r.translationOf? m with
    | some translation => addColumns own translation.columns (.translation translation.table) id
    | none => own
  (r.subclassesOf m).foldl (fun found s => addSubclassColumns found s.1 s.2) translated

/-- The columns that a message offers: the table's own, those of its subclasses and those of its
translation. -/
def offeredColumns (r : Registry) (m : Metadata) : List String :=
  m.columns.names
    ++ (r.subclassesOf m).flatMap (fun s =>
      s.2.columns.names.map fun column => prefixedColumn s.1 column ++ "(inheritance)")
    ++ match r.translationOf? m with
      | some translation => translation.columns.names.map fun column => column ++ "(translation)"
      | none => []

/-- The column that a table reaches under a name. -/
def resolve (r : Registry) (m : Metadata) (column : String) : Except Error ResolvedColumn :=
  match (r.reachableColumns m).get? column with
  | some resolved => .ok resolved
  | none => .error (.lookup (.unknownColumn column m.table (r.offeredColumns m)))

def columnType (r : Registry) (m : Metadata) (column : String) : Except Error ColumnType :=
  (r.resolve m column).map (·.type)

/-- The scalar type under which values for a column are bound. -/
def parameterType (r : Registry) (m : Metadata) (column : String) : Except Error ParameterType :=
  (r.columnType m column).map (·.parameterType)

/-- The scalar types for the columns of a row. -/
def parameterTypes (r : Registry) (m : Metadata) (row : Row) : Except Error (Keyed ParameterType) :=
  row.mapM fun entry => (r.parameterType m entry.1).map fun type => (entry.1, type)

/-- Converts the values of a row by the types of their columns. -/
def convertRow (r : Registry) (m : Metadata) (convert : ColumnType → Value → Except Error Value)
    (row : Row) : Except Error Row :=
  row.mapM fun entry => do
    let type ← r.columnType m entry.1
    let value ← convert type entry.2
    pure (entry.1, value)

/-- The row in the form in which a database stores it. -/
def toStored (r : Registry) (m : Metadata) (row : Row) : Except Error Row :=
  r.convertRow m ColumnType.toStored row

/-- The row in the form in which an application holds it. -/
def toApplication (r : Registry) (m : Metadata) (row : Row) : Except Error Row :=
  r.convertRow m ColumnType.toApplication row

/-- The column is only reached through the translation. -/
def isTranslated (r : Registry) (m : Metadata) (column : String) : Bool :=
  match (r.reachableColumns m).get? column with
  | some ⟨_, .translation _⟩ => true
  | _ => false

/-- The first subclass that declares a column. -/
def declaringSubclass? (r : Registry) (m : Metadata) (column : String) : Option Metadata :=
  ((r.subclassesOf m).map (·.2)).find? fun child => child.hasColumn column

/-- The column is a subclass's own and not the table's. -/
def isInherited (r : Registry) (m : Metadata) (column : String) : Bool :=
  !m.hasColumn column && (r.declaringSubclass? m column).isSome

end Registry
end Relmap
