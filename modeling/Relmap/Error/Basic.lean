import Relmap.Error.Fault
import Relmap.Schema.ColumnType
import Relmap.Value

/-!
# Errors

An error is one fault, a value that a column type does not take, or a failure reported from
outside. Its kind and its message are functions of it.
-/

namespace Relmap

/-- Why an operation failed. -/
inductive Error where
  | mapping (fault : MappingFault)
  | lookup (fault : LookupFault)
  | configuration (fault : ConfigurationFault)
  | statement (fault : StatementFault)
  | conversion (kind : Value.Kind) (type : ColumnType)
  | internal (fault : InternalFault)
  /-- A failure of a database driver, with the texts of its causes below it. -/
  | driver (text : String) (causes : List String)
  /-- A text that another names reader does not take. -/
  | external (text : String)
  /-- A failure without a kind. -/
  | remark (text : String)
deriving DecidableEq, Repr

namespace Error

/-- The kinds of errors. -/
inductive Kind where
  | mapping | lookup | configuration | statement | conversion | internal
  | driver | external | remark
deriving DecidableEq, Repr

def kind : Error → Kind
  | .mapping _ => .mapping
  | .lookup _ => .lookup
  | .configuration _ => .configuration
  | .statement _ => .statement
  | .conversion _ _ => .conversion
  | .internal _ => .internal
  | .driver _ _ => .driver
  | .external _ => .external
  | .remark _ => .remark

/-- The texts of a driver failure from the outside in, as one text. -/
def joined (texts : List String) : String := ": ".intercalate texts

def message : Error → String
  | .mapping fault => "mapping error: " ++ fault.text
  | .lookup fault => "mapping failed: " ++ fault.text
  | .configuration fault => "invalid configuration: " ++ fault.text
  | .statement fault => "invalid statement: " ++ fault.text
  | .conversion kind type => "cannot convert " ++ kind.name ++ " to " ++ type.name
  | .internal fault => "internal error: " ++ fault.text
  | .driver text causes => joined (text :: causes)
  | .external text => text
  | .remark text => text

/-- The failures that an error stands for: of a driver failure itself and each of its causes. -/
def sources : Error → List String
  | .driver text causes => joined (text :: causes) :: text :: causes
  | .external text => [text]
  | _ => []

end Error

/-- What a reader found, or the error of a text that is not in the named notation. -/
def readAs {α : Type} (name : String) : Option α → Except Error α
  | some a => .ok a
  | none => .error (.external ("invalid " ++ name))

end Relmap
