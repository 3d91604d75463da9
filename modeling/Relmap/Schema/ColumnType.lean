/-!
# Column types

The stored types of columns, and the types under which parameters are bound.
-/

namespace Relmap

/-- The stored type of a column. -/
inductive ColumnType where
  | boolean | smallInt | integer | bigInt | decimal | float | string | text | ascii | guid | binary
  | blob | date | dateTime | dateTimeTz | time | json
deriving DecidableEq, Repr

/-- The scalar type of a bound parameter. -/
inductive ParameterType where
  | null | integer | string | largeObject | boolean | binary | ascii
deriving DecidableEq, Repr

/-- The type of a bound parameter: a scalar, or an array of scalars for a list. -/
inductive BindingType where
  | scalar (type : ParameterType)
  | array (type : ParameterType)
deriving DecidableEq, Repr

namespace ColumnType

/-- All types in their order. -/
def all : List ColumnType :=
  [.boolean, .smallInt, .integer, .bigInt, .decimal, .float, .string, .text, .ascii, .guid, .binary,
   .blob, .date, .dateTime, .dateTimeTz, .time, .json]

/-- The name of a type. -/
def name : ColumnType → String
  | .boolean => "boolean"
  | .smallInt => "smallint"
  | .integer => "integer"
  | .bigInt => "bigint"
  | .decimal => "decimal"
  | .float => "float"
  | .string => "string"
  | .text => "text"
  | .ascii => "ascii_string"
  | .guid => "guid"
  | .binary => "binary"
  | .blob => "blob"
  | .date => "date"
  | .dateTime => "datetime"
  | .dateTimeTz => "datetimetz"
  | .time => "time"
  | .json => "json"

/-- The type with the given name. -/
def named? (s : String) : Option ColumnType := all.find? fun type => type.name = s

/-- The position of a type among all types. -/
def index (type : ColumnType) : Nat := all.idxOf type

/-- The scalar type under which a parameter for the column is bound. -/
def parameterType : ColumnType → ParameterType
  | .boolean => .boolean
  | .smallInt | .integer | .bigInt => .integer
  | .ascii => .ascii
  | .binary => .binary
  | .blob => .largeObject
  | _ => .string

theorem named?_name (type : ColumnType) : named? type.name = some type := by
  cases type <;> decide

end ColumnType

namespace ParameterType

def name : ParameterType → String
  | .null => "Null"
  | .integer => "Integer"
  | .string => "String"
  | .largeObject => "LargeObject"
  | .boolean => "Boolean"
  | .binary => "Binary"
  | .ascii => "Ascii"

/-- The number by which database layers know the type. -/
def code : ParameterType → Nat
  | .null => 0
  | .integer => 1
  | .string => 2
  | .largeObject => 3
  | .boolean => 5
  | .binary => 16
  | .ascii => 17

end ParameterType

namespace BindingType

/-- The scalar type, of the items if it is an array. -/
def parameterType : BindingType → ParameterType
  | .scalar type => type
  | .array type => type

def isArray : BindingType → Bool
  | .scalar _ => false
  | .array _ => true

/-- The number of the type. An array is a hundred above its scalar. -/
def code : BindingType → Nat
  | .scalar type => type.code
  | .array type => type.code + 100

end BindingType
end Relmap
