import Relmap.Error.Basic

/-!
# Conversion of values

Every column type has two conversions: from the form in which an application holds a value to the
form in which a database stores it, and back. Null stays null, and lists are converted item by item.
-/

namespace Relmap

namespace Value

mutual

/-- Applies a conversion to every value that is neither null nor a list. -/
def convertLeaves (f : Value → Except Error Value) : Value → Except Error Value
  | .null => .ok .null
  | .list items =>
    match convertItems f items with
    | .ok items => .ok (.list items)
    | .error e => .error e
  | value => f value

/-- `convertLeaves` on the items of a list, up to the first that fails. -/
def convertItems (f : Value → Except Error Value) : List Value → Except Error (List Value)
  | [] => .ok []
  | item :: rest =>
    match item.convertLeaves f with
    | .error e => .error e
    | .ok item =>
      match convertItems f rest with
      | .error e => .error e
      | .ok rest => .ok (item :: rest)

end

end Value

namespace ColumnType

/-- The type does not take the value. -/
def refuse {α : Type} (type : ColumnType) (value : Value) : Except Error α :=
  .error (.conversion value.kind type)

/-- A value as an integer: a truth value as 0 or 1, a real without a fraction as the nearest
integer in range, a text by its digits. -/
def integerOf (type : ColumnType) (value : Value) : Except Error Int64 :=
  match value with
  | .int n => .ok n
  | .bool b => .ok (if b then 1 else 0)
  | .real x =>
    match x.integer? with
    | some n => .ok (Binary64.clampInt64 n)
    | none => type.refuse value
  | .text s =>
    match int64OfText? (Text.trim s.toList) with
    | some n => .ok n
    | none => type.refuse value
  | _ => type.refuse value

/-- A value as a real number. -/
def realOf (type : ColumnType) (value : Value) : Except Error Binary64 :=
  match value with
  | .real x => .ok x
  | .int n => .ok (Binary64.ofInt n.toInt)
  | .text s =>
    match Binary64.ofText? (Text.trim s.toList) with
    | some x => .ok x
    | none => type.refuse value
  | _ => type.refuse value

/-- A date and time as columns hold it, or in the general notation. -/
def dateTimeOf (s : String) : Except Error DateTime :=
  match DateTime.ofColumn? s with
  | some t => .ok t
  | none => readAs "date and time" (DateTime.ofText? s)

/-- A time of day as columns hold it, or in the general notation. -/
def clockOf (s : String) : Except Error Clock :=
  match Clock.ofColumn? s with
  | some t => .ok t
  | none => readAs "time" (Clock.ofText? s)

/-- The stored form of a value that is neither null nor a list. -/
def storedLeaf (type : ColumnType) (value : Value) : Except Error Value :=
  match type, value with
  | .boolean, .bool b => .ok (.bool b)
  | .boolean, .int n => .ok (.bool (n != 0))
  | .smallInt, value | .integer, value | .bigInt, value => .int <$> integerOf type value
  | .decimal, .int n => .ok (.text (int64Text n))
  | .decimal, .real x => .ok (.text x.plain)
  | .decimal, .text s =>
    if (Binary64.ofText? (Text.trim s.toList)).isSome then .ok (.text s) else type.refuse value
  | .float, value => .real <$> realOf type value
  | .string, .text s | .text, .text s | .ascii, .text s => .ok (.text s)
  | .string, .int n | .text, .int n | .ascii, .int n => .ok (.text (int64Text n))
  | .string, .real x | .text, .real x | .ascii, .real x => .ok (.text x.plain)
  | .string, .uuid u | .text, .uuid u | .ascii, .uuid u => .ok (.text u.text)
  | .guid, .uuid u => .ok (.text u.text)
  | .guid, .text s => (fun u => .text u.text) <$> readAs "identifier" (Uuid.ofText? s)
  | .binary, .bytes data | .blob, .bytes data => .ok (.bytes data)
  | .binary, .text s | .blob, .text s => .ok (.bytes (Value.utf8 s))
  | .date, .date d => .ok (.text d.text)
  | .date, .dateTime t => .ok (.text t.date.text)
  | .date, .text s => (fun d => .text d.text) <$> readAs "date" (Date.ofText? s)
  | .dateTime, .dateTime t => .ok (.text t.columnText)
  | .dateTime, .timestamp t => .ok (.text t.utc.columnText)
  | .dateTime, .text s => (fun t => .text t.columnText) <$> dateTimeOf s
  | .dateTimeTz, .timestamp t => .ok (.text t.text)
  | .dateTimeTz, .text s => (fun t => .text t.text) <$> readAs "timestamp" (Timestamp.ofText? s)
  | .time, .time t => .ok (.text t.columnText)
  | .time, .text s => (fun t => .text t.columnText) <$> clockOf s
  | .json, value => .ok (.text value.toJson.text)
  | type, value => type.refuse value

/-- The application form of a stored value that is neither null nor a list. -/
def applicationLeaf (type : ColumnType) (value : Value) : Except Error Value :=
  match type, value with
  | .boolean, .bool b => .ok (.bool b)
  | .boolean, .int n => .ok (.bool (n != 0))
  | .boolean, .text s =>
    if s = "1" ∨ s = "true" ∨ s = "t" then .ok (.bool true)
    else if s = "0" ∨ s = "false" ∨ s = "f" then .ok (.bool false)
    else type.refuse value
  | .smallInt, value | .integer, value | .bigInt, value => .int <$> integerOf type value
  | .decimal, .text s => .ok (.text s)
  | .decimal, .int n => .ok (.text (int64Text n))
  | .decimal, .real x => .ok (.text x.plain)
  | .float, value => .real <$> realOf type value
  | .string, .text s | .text, .text s | .ascii, .text s => .ok (.text s)
  | .string, .bytes data | .text, .bytes data | .ascii, .bytes data =>
    match Value.ofUtf8? data with
    | some s => .ok (.text s)
    | none => type.refuse value
  | .string, .int n | .text, .int n | .ascii, .int n => .ok (.text (int64Text n))
  | .guid, .text s => .uuid <$> readAs "identifier" (Uuid.ofText? s)
  | .guid, .uuid u => .ok (.uuid u)
  | .binary, .bytes data | .blob, .bytes data => .ok (.bytes data)
  | .binary, .text s | .blob, .text s => .ok (.bytes (Value.utf8 s))
  | .date, .text s => .date <$> readAs "date" (Date.ofText? s)
  | .date, .date d => .ok (.date d)
  | .dateTime, .text s => .dateTime <$> dateTimeOf s
  | .dateTime, .dateTime t => .ok (.dateTime t)
  | .dateTimeTz, .text s => .timestamp <$> readAs "timestamp" (Timestamp.ofText? s)
  | .dateTimeTz, .timestamp t => .ok (.timestamp t)
  | .time, .text s => .time <$> clockOf s
  | .time, .time t => .ok (.time t)
  | .json, .text s => .json <$> readAs "json" (Json.readCanonical? s)
  | .json, .json j => .ok (.json j)
  | type, value => type.refuse value

/-- The form in which a database stores an application value. -/
def toStored (type : ColumnType) (value : Value) : Except Error Value :=
  value.convertLeaves type.storedLeaf

/-- The application form of a stored value. -/
def toApplication (type : ColumnType) (value : Value) : Except Error Value :=
  value.convertLeaves type.applicationLeaf

/-- The type under which a value for the column is bound. -/
def bindingType (type : ColumnType) (value : Value) : BindingType :=
  if value.isList then .array type.parameterType else .scalar type.parameterType

/-- The type with the given name. -/
def ofName (s : String) : Except Error ColumnType :=
  match named? s with
  | some type => .ok type
  | none => .error (.mapping (.unknownType s (all.map name)))

end ColumnType
end Relmap
